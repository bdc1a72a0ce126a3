import Emend.Document.Lines
import Emend.Proofs.Json.ReadsBack
import Emend.Representation

/-!
# Diagnostics and representations are read back

Diagnostics, and all they are made of, read back when their offsets are words, which is no
condition on a span: it may be inverted. The form of a diagnostic leaves out a path or a fix that
is not there and always gives the severity, while its reader takes `null` for either and an error
for a missing severity; so many forms are read as one diagnostic, and this as itself from its own
form. Representations read back without any condition.
-/

namespace Emend

theorem Span.readsBack : ReadsBack Span Span.InRange where
  fromJson_toJson := by
    rintro ⟨start, stop⟩ ⟨hstart, hstop⟩
    show decodeStruct _ _ _ (.object _) = _
    rw [decodeStruct, checkMembers_eq_ok_iff.2, ReadsBack.nat.required_eq_ok hstart rfl,
      ReadsBack.nat.required_eq_ok hstop rfl]
    · rfl
    · simp [List.lookup_cons, ReadsBack.nat.check hstart, ReadsBack.nat.check hstop]
  proper := by
    refine yields_decodeStruct (fun members => ?_) ?_ _ _
    · refine .bind (yields_true _) fun _ _ => ?_
      refine .bind (ReadsBack.nat.yields_required _ _) fun _ hstart => ?_
      refine .bind (ReadsBack.nat.yields_required _ _) fun _ hstop => ?_
      exact .pure ⟨hstart, hstop⟩
    · refine .bind (ReadsBack.nat.yields_items_required _) fun _ hstart => ?_
      refine .bind (ReadsBack.nat.yields_items_required _) fun _ hstop => ?_
      exact .pure ⟨hstart, hstop⟩
  proper_absent := nofun

theorem Severity.readsBack : ReadsBack Severity fun _ => True where
  fromJson_toJson := by rintro ⟨⟩ - <;> rfl
  proper := fun _ => trivial
  proper_absent := fun _ => trivial

theorem Path.readsBack : ReadsBack Path fun _ => True where
  fromJson_toJson := fun _ => rfl
  proper := fun _ => trivial
  proper_absent := fun _ => trivial

theorem Tag.readsBack : ReadsBack Tag fun _ => True where
  fromJson_toJson := fun _ => rfl
  proper := fun _ => trivial
  proper_absent := fun _ => trivial

theorem Lines.readsBack : ReadsBack Lines fun _ => True where
  fromJson_toJson := by
    rintro ⟨lines⟩ -
    show (fromJson (toJson lines) >>= _) = _
    rw [ReadsBack.strings.fromJson_toJson trivial]
    rfl
  proper := fun _ => trivial
  proper_absent := fun _ => trivial

section
variable {P : Type} [ToJson P] [FromJson P]

theorem Fix.readsBack (h : ReadsBack P fun _ => True) :
    ReadsBack (Fix P) fun fix => fix.span.InRange where
  fromJson_toJson := by
    rintro ⟨span, payload, origin⟩ hspan
    show decodeStruct _ _ _ (.object _) = _
    rw [decodeStruct, checkMembers_eq_ok_iff.2, Span.readsBack.required_eq_ok hspan rfl,
      h.required_eq_ok trivial rfl, ReadsBack.string.required_eq_ok trivial rfl]
    · rfl
    · simp [List.lookup_cons, Span.readsBack.check hspan, h.check, ReadsBack.string.check]
  proper := by
    refine yields_decodeStruct (p := fun fix : Fix P => fix.span.InRange) (fun members => ?_) ?_ _ _
    · refine .bind (yields_true _) fun _ _ => ?_
      refine .bind (Span.readsBack.yields_required _ _) fun _ hspan => ?_
      refine .bind (yields_true _) fun _ _ => .bind (yields_true _) fun _ _ => ?_
      exact .pure hspan
    · refine .bind (Span.readsBack.yields_items_required _) fun _ hspan => ?_
      refine .bind (Items.yields_true _) fun _ _ => .bind (Items.yields_true _) fun _ _ => ?_
      exact .pure hspan
  proper_absent := nofun

/-- The offsets of the diagnostic and of its fix are words. -/
def Diagnostic.InRange (d : Diagnostic P) : Prop :=
  d.span.InRange ∧ ∀ fix ∈ d.fix, fix.span.InRange

theorem Diagnostic.readsBack (h : ReadsBack P fun _ => True) :
    ReadsBack (Diagnostic P) Diagnostic.InRange where
  fromJson_toJson := by
    rintro d ⟨hspan, hfix⟩
    have hpath : ReadsBack (Option Path) fun _ => True :=
      (Path.readsBack.option nofun).of_forall fun _ _ _ => trivial
    have hfixes : ReadsBack (Option (Fix P)) _ := (Fix.readsBack h).option nofun
    show decodeStruct _ _ _ (.object _) = _
    rw [decodeStruct, checkMembers_eq_ok_iff.2,
      ReadsBack.string.required_eq_ok trivial (a := d.ruleId),
      ReadsBack.string.required_eq_ok trivial (a := d.message),
      Span.readsBack.required_eq_ok hspan,
      Severity.readsBack.optional_eq_ok trivial (a := d.severity),
      hpath.required_option_eq_ok trivial (o := d.path), hfixes.required_option_eq_ok hfix]
    · rfl
    -- the six fields are looked up among the members that are there, and these are checked
    iterate 6
      · simp [List.lookup_append, List.lookup_cons]
    · simp only [List.forall_mem_append, List.forall_mem_cons, forall_mem_member?]
      simp +contextual [List.lookup_cons, ReadsBack.string.check, Span.readsBack.check hspan,
        Severity.readsBack.check, hpath.check_option, hfixes.check_option, hfix]
  proper := by
    refine yields_decodeStruct (fun members => ?_) ?_ _ _
    · refine .bind (yields_true _) fun _ _ => .bind (yields_true _) fun _ _ => ?_
      refine .bind (yields_true _) fun _ _ => ?_
      refine .bind (Span.readsBack.yields_required _ _) fun _ hspan => ?_
      refine .bind (yields_true _) fun _ _ => .bind (yields_true _) fun _ _ => ?_
      refine .bind (((Fix.readsBack h).option nofun).yields_required _ _) fun _ hfix => ?_
      exact .pure ⟨hspan, hfix⟩
    · refine .bind (Items.yields_true _) fun _ _ => .bind (Items.yields_true _) fun _ _ => ?_
      refine .bind (Span.readsBack.yields_items_required _) fun _ hspan => ?_
      refine .bind (Items.yields_true _) fun _ _ => .bind (Items.yields_true _) fun _ _ => ?_
      refine .bind (((Fix.readsBack h).option nofun).yields_items_required _) fun _ hfix => ?_
      exact .pure ⟨hspan, hfix⟩
  proper_absent := nofun

theorem Representation.readsBack {D : Type} [ToJson D] [FromJson D]
    (h : ReadsBack D fun _ => True) : ReadsBack (Representation D) fun _ => True where
  fromJson_toJson := by
    rintro ⟨tag, content, path⟩ -
    show decodeStruct _ _ _ (.object _) = _
    rw [decodeStruct, checkMembers_eq_ok_iff.2, Tag.readsBack.required_eq_ok trivial rfl,
      h.required_eq_ok trivial rfl, Path.readsBack.required_eq_ok trivial rfl]
    · rfl
    · simp [List.lookup_cons, Tag.readsBack.check, h.check, Path.readsBack.check]
  proper := fun _ => trivial
  proper_absent := nofun

end

/-- Diagnostics whose offsets are words, and all representations, are read from their own forms;
and what has been read from any JSON, whichever fields were missing, null or more than were asked
for, in an object or in an array, is read again from its own form. -/
theorem records_reread :
    (∀ d : Diagnostic String, d.InRange → fromJson (toJson d) = .ok d) ∧
    (∀ d : Diagnostic (List String), d.InRange → fromJson (toJson d) = .ok d) ∧
    (∀ r : Representation String, fromJson (toJson r) = .ok r) ∧
    (∀ r : Representation Lines, fromJson (toJson r) = .ok r) ∧
    ∀ value : Json,
      (∀ d : Diagnostic String, fromJson value = .ok d →
        d.InRange ∧ fromJson (toJson d) = .ok d) ∧
      (∀ d : Diagnostic (List String), fromJson value = .ok d →
        d.InRange ∧ fromJson (toJson d) = .ok d) ∧
      (∀ r : Representation String, fromJson value = .ok r → fromJson (toJson r) = .ok r) ∧
      ∀ r : Representation Lines, fromJson value = .ok r → fromJson (toJson r) = .ok r := by
  have htexts := Diagnostic.readsBack ReadsBack.string
  have hlists := Diagnostic.readsBack ReadsBack.strings
  have htext := Representation.readsBack ReadsBack.string
  have hlines := Representation.readsBack Lines.readsBack
  refine ⟨fun _ => htexts.fromJson_toJson, fun _ => hlists.fromJson_toJson,
    fun _ => htext.fromJson_toJson trivial, fun _ => hlines.fromJson_toJson trivial,
    fun value => ⟨?_, ?_, fun _ => htext.reread, fun _ => hlines.reread⟩⟩
  · exact fun _ h => ⟨htexts.proper h, htexts.reread h⟩
  · exact fun _ h => ⟨hlists.proper h, hlists.reread h⟩

/-- An inverted span that starts at the last word; and one diagnostic from an array and from an
object that says less and more than is asked for. -/
theorem records_reread_inverted :
    let inverted : Diagnostic (List String) :=
      ⟨"a", "b", ⟨0xFFFFFFFFFFFFFFFF, 0⟩, .info, some ⟨"x.md"⟩, some ⟨⟨5, 2⟩, ["", "y"], "a"⟩⟩
    let terse : Diagnostic String := ⟨"a", "b", ⟨7, 3⟩, .error, none, none⟩
    let object : Json := .object [("extra", .array []), ("message", .string "b"), ("path", .null),
      ("rule_id", .string "a"), ("span", .array [.int 7, .int 3])]
    let items : Json := .array [.string "a", .string "b",
      .object [("end", .int 3), ("start", .int 7)], .object [("error", .null)], .null, .null]
    let lines : Representation Lines := ⟨.line, ⟨["l", ""]⟩, ⟨"./x.md"⟩⟩
    (inverted.InRange ∧ fromJson (toJson inverted) = .ok inverted) ∧
      (fromJson object = .ok terse ∧ fromJson items = .ok terse ∧ toJson terse ≠ object ∧
        terse.InRange ∧ fromJson (toJson terse) = .ok terse) ∧
      fromJson (toJson lines) = .ok lines := by
  intro inverted terse object items lines
  obtain ⟨htexts, hlists, htext, hlines, hreread⟩ := records_reread
  have hinverted : inverted.InRange := by
    simp [inverted, Diagnostic.InRange, Span.InRange, Word.bound]
  have hobject : fromJson object = .ok terse := rfl
  have hitems : fromJson items = .ok terse := rfl
  exact ⟨⟨hinverted, hlists inverted hinverted⟩,
    ⟨hobject, hitems, by decide +kernel, (hreread object).1 terse hobject⟩, hlines lines⟩

end Emend

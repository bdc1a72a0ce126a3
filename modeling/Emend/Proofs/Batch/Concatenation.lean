import Emend.Proofs.Batch.Selection
import Emend.Proofs.Resolution.Seam

/-!
# Batches for documents one behind the other

Two documents make one, the second behind the first, and so do two batches, one for each of them,
when the fixes of the second are moved behind the first document. No fix of the one reaches over the
seam, so that the candidates of the two are sorted and swept apart (`resolve_concatenated`), unless
both have insertions there, which would be rivals. The spans replaced in the whole are then those
replaced in its parts (`substitute_append`), and the whole becomes what the parts become
(`apply_concatenated`).
-/

namespace Emend

/-! ## Documents -/

/-- A kind of document with the document that two make, one behind the other. -/
class Shape.Concatenable (s : Shape) extends Shape.Sequential s where
  append : s.Doc → s.Doc → s.Doc
  units_append : ∀ doc doc' : s.Doc, units (append doc doc') = units doc ++ units doc'
  isBoundary_front : ∀ {doc doc' : s.Doc} {offset : Nat}, s.isBoundary doc offset →
    s.isBoundary (append doc doc') offset
  isBoundary_back : ∀ {doc doc' : s.Doc} {offset : Nat}, s.isBoundary doc' offset →
    s.isBoundary (append doc doc') (offset + s.size doc)

theorem Text.bytes_append (text text' : String) :
    Text.bytes (text ++ text') = Text.bytes text ++ Text.bytes text' := by
  rw [bytes_eq_flatMap, String.toList_append, List.flatMap_append, ← bytes_eq_flatMap,
    ← bytes_eq_flatMap]

theorem Text.isBoundary_front {text text' : String} {offset : Nat}
    (h : Text.isBoundary text offset) : Text.isBoundary (text ++ text') offset := by
  obtain ⟨p, q, htext, hsize⟩ := (Units.isSome_cut?_iff Char.utf8Size_pos).1 h
  refine (Units.isSome_cut?_iff Char.utf8Size_pos).2 ⟨p, q ++ text'.toList, ?_, hsize⟩
  rw [String.toList_append, htext, List.append_assoc]

theorem Text.isBoundary_back {text text' : String} {offset : Nat}
    (h : Text.isBoundary text' offset) :
    Text.isBoundary (text ++ text') (offset + text.utf8ByteSize) := by
  unfold isBoundary cut?
  rw [String.toList_append, utf8ByteSize_eq_size, Nat.add_comm,
    Units.cut?_append Char.utf8Size_pos, Option.isSome_map]
  exact h

instance : Shape.Concatenable .text where
  append := String.append
  units_append := Text.bytes_append
  isBoundary_front := Text.isBoundary_front
  isBoundary_back := Text.isBoundary_back

instance : Shape.Concatenable .lines where
  append lines lines' := ⟨lines.toList ++ lines'.toList⟩
  units_append _ _ := rfl
  isBoundary_front {lines lines' offset} h := by
    have hle : offset ≤ lines.toList.length := of_decide_eq_true h
    refine decide_eq_true (Nat.le_trans hle ?_)
    rw [Lines.size, List.length_append]
    exact Nat.le_add_right _ _
  isBoundary_back {lines lines' offset} h := by
    have hle : offset ≤ lines'.toList.length := of_decide_eq_true h
    refine decide_eq_true (Nat.le_trans (Nat.add_le_add_right hle lines.toList.length) ?_)
    rw [Lines.size, List.length_append, Nat.add_comm]

/-! ## Verdicts -/

section
variable {P : Type} {fixes fixes' : List (Fix P)} {n : Nat}

namespace Candidate

/-- The fixes of the second batch stand behind those of the first. -/
theorem enumerate_append (fixes fixes' : List (Fix P)) (n : Nat) :
    enumerate (fixes ++ fixes'.map (.after n)) =
      enumerate fixes ++ (enumerate fixes').map (.carried (· + fixes.length) n) := by
  rw [enumerate, enumerate, enumerate, List.zipIdx_append, List.map_append, Nat.zero_add,
    List.zipIdx_map, List.zipIdx_eq_map_add (i := fixes.length), List.map_map, List.map_map,
    List.map_map]
  congr 1
  exact List.map_congr_left fun p _ => congrArg (Candidate.mk · _) (Nat.add_comm _ _)

theorem stableSort_carried (place : Nat → Nat) (cs : List (Candidate P)) :
    stableSort le (cs.map (.carried place n)) = (stableSort le cs).map (.carried place n) := by
  refine (map_stableSort (fun c d => ?_) cs).symm
  apply Bool.eq_iff_iff.2
  rw [le_iff, le_iff]
  simp only [Span.Precedes, carried, Fix.after, Span.after]
  omega

end Candidate

section
variable (hfront : ∀ fix ∈ fixes, fix.span.start ≤ fix.span.stop ∧ fix.span.stop ≤ n)
include hfront

/-- The candidates of the first batch come first. -/
theorem stableSort_enumerate_append (fixes' : List (Fix P)) :
    stableSort Candidate.le (Candidate.enumerate (fixes ++ fixes'.map (.after n))) =
      stableSort Candidate.le (Candidate.enumerate fixes) ++
        (stableSort Candidate.le (Candidate.enumerate fixes')).map
          (.carried (· + fixes.length) n) := by
  rw [Candidate.enumerate_append, stableSort_append, Candidate.stableSort_carried]
  intro c hc d hd
  obtain ⟨e, -, rfl⟩ := List.mem_map.1 hd
  have := hfront c.fix (Candidate.fix_mem_of_mem_enumerate hc)
  rw [Candidate.le_iff]
  simp only [Span.Precedes, Candidate.carried, Fix.after, Span.after]
  omega

/-- A fix of the first batch clears those of the second, if not both are insertions at the seam. -/
theorem clears_after (hseam : (∀ fix ∈ fixes, fix.isInsertion → fix.span.start ≠ n) ∨
      ∀ fix ∈ fixes', fix.isInsertion → fix.span.start ≠ 0) {f g : Fix P} (hf : f ∈ fixes)
    (hg : g ∈ fixes') : f.Clears (g.after n) := by
  obtain ⟨hle, hstop⟩ := hfront f hf
  refine ⟨?_, fun hins hins' hstart => ?_⟩
  · show f.span.stop ≤ g.span.start + n
    omega
  · change f.span.start = g.span.start + n at hstart
    rw [Fix.isInsertion_after] at hins'
    rcases hseam with hfirst | hsecond
    · exact hfirst f hf hins (by omega)
    · exact hsecond g hg hins' (by omega)

end

/-- Rejections stand in the order of their places on both sides. -/
theorem inOrder_append {front back : List (RejectedFix P)}
    (hfront : ∀ r ∈ front, r.index < fixes.length) :
    inOrder (front ++ back.map (.carried (· + fixes.length) n)) =
      inOrder front ++ (inOrder back).map (.carried (· + fixes.length) n) := by
  have hback : (inOrder back).map (.carried (· + fixes.length) n) =
      inOrder (back.map (.carried (· + fixes.length) n)) :=
    map_stableSort (fun a b => decide_eq_decide.2 Nat.add_le_add_iff_right) back
  rw [hback]
  refine stableSort_append fun a ha b hb => decide_eq_true ?_
  obtain ⟨r, -, rfl⟩ := List.mem_map.1 hb
  exact Nat.le_trans (Nat.le_of_lt (hfront a ha)) (Nat.le_add_left _ _)

/-- The verdicts on two batches, of which the first keeps in front of the offset `n` and the second
behind it. They do not both insert something there. -/
theorem resolve_concatenated (policy : SamePointPolicy)
    (hfront : ∀ fix ∈ fixes, fix.span.start ≤ fix.span.stop ∧ fix.span.stop ≤ n)
    (hseam : (∀ fix ∈ fixes, fix.isInsertion → fix.span.start ≠ n) ∨
      ∀ fix ∈ fixes', fix.isInsertion → fix.span.start ≠ 0) :
    resolve (fixes ++ fixes'.map (.after n)) policy =
      (resolve fixes policy).append ((resolve fixes' policy).carried (· + fixes.length) n) := by
  have hclears : ∀ c ∈ stableSort Candidate.le (Candidate.enumerate fixes),
      ∀ d ∈ (stableSort Candidate.le (Candidate.enumerate fixes')).map
        (Candidate.carried (· + fixes.length) n), c.fix.Clears d.fix := by
    intro c hc d hd
    obtain ⟨e, he, rfl⟩ := List.mem_map.1 hd
    exact clears_after hfront hseam (Candidate.fix_mem_of_mem_enumerate (mem_stableSort.1 hc))
      (Candidate.fix_mem_of_mem_enumerate (mem_stableSort.1 he))
  have hindex : ∀ r ∈ (Resolution.sweep policy none
      (stableSort Candidate.le (Candidate.enumerate fixes))).rejected,
      r.index < fixes.length := by
    intro r hr
    have hmem := mem_stableSort.1 (Resolution.candidate_mem_of_mem_rejected hr)
    exact Candidate.index_lt_of_mem_enumerate hmem
  have hback : Resolution.sweep policy none
      ((stableSort Candidate.le (Candidate.enumerate fixes')).map
        (Candidate.carried (· + fixes.length) n)) = _ := Resolution.sweep_carried none
  rw [resolve, Resolution.ofCandidates, stableSort_enumerate_append hfront,
    Resolution.sweep_append (fun _ _ => Nat.zero_le _) hclears, hback]
  exact congrArg (Resolution.mk _) (inOrder_append hindex)

end

/-! ## Substitutions -/

section
variable {U : Type} {front back : List U}

/-- What is replaced behind the units in front is replaced as if these were not there. -/
theorem substitute_after (edits : List (Span × List U)) (start : Nat) :
    substitute (front ++ back) (start + front.length)
        (edits.map fun edit => (edit.1.after front.length, edit.2)) =
      substitute back start edits := by
  have hdrop : ∀ start, (front ++ back).drop (start + front.length) = back.drop start := by
    intro start
    rw [Nat.add_comm, List.drop_length_add_append]
  induction edits generalizing start with
  | nil => exact hdrop start
  | cons edit edits ih =>
    rw [List.map_cons, substitute, substitute, List.extract_eq_take_drop,
      List.extract_eq_take_drop, Span.after, hdrop, Nat.add_sub_add_right, ih]

/-- Edits in front and edits behind are made each on its own side. -/
theorem substitute_append {edits : List (Span × List U)} (edits' : List (Span × List U))
    {start : Nat} (hstart : start ≤ front.length)
    (h : ∀ edit ∈ edits, edit.1.start ≤ front.length ∧ edit.1.stop ≤ front.length) :
    substitute (front ++ back) start
        (edits ++ edits'.map fun edit => (edit.1.after front.length, edit.2)) =
      substitute front start edits ++ substitute back 0 edits' := by
  induction edits generalizing start with
  | nil =>
    cases edits' with
    | nil => exact List.drop_append_of_le_length hstart
    | cons edit edits' =>
      have hlength : edit.1.start + front.length - start =
          (front.drop start).length + edit.1.start := by
        rw [List.length_drop]
        omega
      have hextract : (front ++ back).extract start (edit.1.start + front.length) =
          front.drop start ++ back.extract 0 edit.1.start := by
        rw [List.extract_eq_take_drop, List.extract_eq_take_drop,
          List.drop_append_of_le_length hstart, hlength, List.take_length_add_append]
        rfl
      have hbehind : substitute (front ++ back) (edit.1.stop + front.length)
          (edits'.map fun edit => (edit.1.after front.length, edit.2)) =
            substitute back edit.1.stop edits' := substitute_after edits' edit.1.stop
      rw [List.nil_append, List.map_cons, substitute, substitute, substitute, Span.after, hextract,
        hbehind]
      simp only [List.append_assoc]
  | cons edit edits ih =>
    obtain ⟨hedit, hrest⟩ := List.forall_mem_cons.1 h
    have hextract : (front ++ back).extract start edit.1.start =
        front.extract start edit.1.start := by
      rw [List.extract_eq_take_drop, List.extract_eq_take_drop,
        List.drop_append_of_le_length hstart, List.take_append_of_le_length]
      rw [List.length_drop]
      omega
    rw [List.cons_append, substitute, substitute, hextract, ih hedit.2 hrest]
    simp only [List.append_assoc]

end

/-! ## Batches -/

/-- The report on a batch and on another one, whose document lies `n` units behind and whose fixes
stand `k` places behind. -/
def FixReport.beside {P : Type} (n k : Nat) (report report' : FixReport P) : FixReport P :=
  ⟨report.applied ++ report'.applied.map (.after n),
    report.rejected ++ report'.rejected.map (.carried (· + k) n), report.delta + report'.delta⟩

namespace Batch

open Shape.Sequential (units)

section
variable {s : Shape} {doc : s.Doc} {fixes : List (Fix s.Payload)} {policy : SamePointPolicy}

theorem payloadTotal_append_after (fixes fixes' : List (Fix s.Payload)) (n : Nat) :
    payloadTotal s (fixes ++ fixes'.map (.after n)) =
      payloadTotal s fixes + payloadTotal s fixes' := by
  rw [payloadTotal, payloadTotal, payloadTotal, List.map_append, List.sum_append, List.map_map]
  rfl

theorem records_map_after (fixes : List (Fix s.Payload)) (n : Nat) :
    records s (fixes.map (.after n)) = records s fixes := by
  rw [records, records, List.map_map]
  refine List.map_congr_left fun fix _ => ?_
  have hlength : (fix.after n).span.length = fix.span.length := Span.length_after fix.span
  rw [Function.comp_apply, hlength]
  rfl

theorem report_of_fits (h : ∀ fix ∈ fixes, fits s doc fix) (shift : Shift) :
    report s doc fixes policy shift =
      ⟨(resolve fixes policy).accepted, (resolve fixes policy).rejected, shift.delta⟩ := by
  have hsorted : stableSort (fun a b => a.index ≤ b.index) (resolve fixes policy).rejected =
      (resolve fixes policy).rejected := inOrder_eq_self (pairwise_inOrder _)
  rw [report, refused_of_fits h, verdict_of_fits h, List.nil_append, hsorted]

/-- What a batch of fixes that all fit makes of a document. -/
theorem exists_apply_of_fits [s.Sequential] (policy : SamePointPolicy)
    (h : ∀ fix ∈ fixes, fits s doc fix) (hsize : s.size doc + payloadTotal s fixes < Word.half) :
    (apply s doc fixes policy).result = .ok ⟨(resolve fixes policy).accepted,
      (resolve fixes policy).rejected,
      Shift.growth (records s (resolve fixes policy).accepted)⟩ ∧
    units (apply s doc fixes policy).content =
      substitute (units doc) 0 (edits (resolve fixes policy).accepted) := by
  obtain ⟨shift, hresult, hdelta, hunits⟩ := exists_run doc fixes policy hsize
  rw [apply_eq]
  refine ⟨?_, ?_⟩
  · dsimp only
    rw [hresult, Except.map, report_of_fits h, hdelta, verdict_of_fits h]
  · rw [← verdict_of_fits h]
    exact hunits

end

theorem edits_append_after {s : Shape} [s.Sequential] (fixes fixes' : List (Fix s.Payload))
    (n : Nat) : edits (fixes ++ fixes'.map (.after n)) =
      edits fixes ++ (edits fixes').map fun edit => (edit.1.after n, edit.2) := by
  rw [edits, edits, edits, List.map_append, List.map_map, List.map_map]
  rfl

variable {s : Shape} [s.Concatenable] {doc doc' : s.Doc} {fixes fixes' : List (Fix s.Payload)}

theorem size_append (doc doc' : s.Doc) :
    s.size (Shape.Concatenable.append doc doc') = s.size doc + s.size doc' := by
  rw [← Shape.Sequential.length_units, Shape.Concatenable.units_append, List.length_append,
    Shape.Sequential.length_units, Shape.Sequential.length_units]

/-- Fixes for either document fit the two of them. -/
theorem fits_append (h : ∀ fix ∈ fixes, fits s doc fix) (h' : ∀ fix ∈ fixes', fits s doc' fix) :
    ∀ fix ∈ fixes ++ fixes'.map (.after (s.size doc)),
      fits s (Shape.Concatenable.append doc doc') fix := by
  intro fix hfix
  rw [fits_iff, size_append]
  rcases List.mem_append.1 hfix with hfix | hfix
  · obtain ⟨hle, hstop, hbstart, hbstop⟩ := fits_iff.1 (h fix hfix)
    exact ⟨hle, Nat.le_trans hstop (Nat.le_add_right _ _),
      Shape.Concatenable.isBoundary_front hbstart, Shape.Concatenable.isBoundary_front hbstop⟩
  · obtain ⟨g, hg, rfl⟩ := List.mem_map.1 hfix
    obtain ⟨hle, hstop, hbstart, hbstop⟩ := fits_iff.1 (h' g hg)
    rw [Nat.add_comm (s.size doc)]
    exact ⟨Nat.add_le_add_right hle _, Nat.add_le_add_right hstop _,
      Shape.Concatenable.isBoundary_back hbstart, Shape.Concatenable.isBoundary_back hbstop⟩

/-- A batch for a document and one for another, whose fixes are moved behind the first document,
are applied to the two of them as each is applied to its own: the contents, the fixes applied and
the rejections stand one behind the other, and the changes of length add up. -/
theorem apply_concatenated (policy : SamePointPolicy) (h : ∀ fix ∈ fixes, fits s doc fix)
    (h' : ∀ fix ∈ fixes', fits s doc' fix)
    (hseam : (∀ fix ∈ fixes, fix.isInsertion → fix.span.start ≠ s.size doc) ∨
      ∀ fix ∈ fixes', fix.isInsertion → fix.span.start ≠ 0) :
    let both := fixes ++ fixes'.map (.after (s.size doc))
    resolve both policy = (resolve fixes policy).append
      ((resolve fixes' policy).carried (· + fixes.length) (s.size doc)) ∧
    (s.size doc + s.size doc' + payloadTotal s fixes + payloadTotal s fixes' < Word.half →
      ∃ report report', (apply s doc fixes policy).result = .ok report ∧
        (apply s doc' fixes' policy).result = .ok report' ∧
        (apply s (Shape.Concatenable.append doc doc') both policy).result =
          .ok (report.beside (s.size doc) fixes.length report') ∧
        (apply s (Shape.Concatenable.append doc doc') both policy).content =
          Shape.Concatenable.append (apply s doc fixes policy).content
            (apply s doc' fixes' policy).content) := by
  intro both
  have hresolve : resolve both policy = (resolve fixes policy).append
      ((resolve fixes' policy).carried (· + fixes.length) (s.size doc)) := by
    refine resolve_concatenated policy (fun fix hfix => ?_) hseam
    obtain ⟨hle, hstop, -, -⟩ := fits_iff.1 (h fix hfix)
    exact ⟨hle, hstop⟩
  refine ⟨hresolve, fun hsize => ?_⟩
  have hfront : ∀ edit ∈ edits (resolve fixes policy).accepted,
      edit.1.start ≤ (units doc).length ∧ edit.1.stop ≤ (units doc).length := by
    intro edit hedit
    obtain ⟨fix, hfix, rfl⟩ := List.mem_map.1 hedit
    rw [← verdict_of_fits h] at hfix
    obtain ⟨hle, hstop, -, -⟩ := fits_iff.1 (fits_of_mem_accepted hfix)
    rw [Shape.Sequential.length_units]
    exact ⟨Nat.le_trans hle hstop, hstop⟩
  obtain ⟨hresult, hunits⟩ := exists_apply_of_fits policy h (by omega)
  obtain ⟨hresult', hunits'⟩ := exists_apply_of_fits policy h' (by omega)
  have hboth : s.size (Shape.Concatenable.append doc doc') + payloadTotal s both < Word.half := by
    rw [size_append, payloadTotal_append_after]
    omega
  obtain ⟨hresult'', hunits''⟩ := exists_apply_of_fits policy (fits_append h h') hboth
  refine ⟨_, _, hresult, hresult', ?_, ?_⟩
  · rw [hresult'', hresolve, FixReport.beside, Resolution.append, Resolution.carried,
      growth_records_append, records_map_after]
  · apply Shape.Sequential.units_inj
    rw [hunits'', hresolve, Shape.Concatenable.units_append, Shape.Concatenable.units_append,
      hunits, hunits', ← substitute_append _ (Nat.zero_le _) hfront, Shape.Sequential.length_units,
      Resolution.append, Resolution.carried, edits_append_after]

/-- A replacement ends at the seam, another one starts there, and of two insertions in front of it
one is rejected for the other. -/
theorem apply_concatenated_of_touching :
    let fixes : List (Fix String) := [⟨⟨1, 3⟩, "n", "a"⟩]
    let fixes' : List (Fix String) := [⟨⟨0, 2⟩, "mm", "b"⟩, .insert 0 "-" "b", .insert 0 "+" "c"]
    let both := fixes ++ fixes'.map (.after 3)
    let done := apply .text "aññb" both .firstSubmitted
    (∀ fix ∈ fixes, fits .text "añ" fix) ∧ (∀ fix ∈ fixes', fits .text "ñb" fix) ∧
    (∀ fix ∈ fixes, fix.isInsertion → fix.span.start ≠ 3) ∧
    3 + 3 + payloadTotal .text fixes + payloadTotal .text fixes' < Word.half ∧
    resolve both .firstSubmitted = (resolve fixes .firstSubmitted).append
      ((resolve fixes' .firstSubmitted).carried (· + 1) 3) ∧
    done.result = .ok ⟨[⟨⟨1, 3⟩, "n", "a"⟩, .insert 3 "-" "b", ⟨⟨3, 5⟩, "mm", "b"⟩],
      [⟨3, .insert 3 "+" "c", .conflict ⟨3, 3⟩ "b" ⟨3, 3⟩⟩], 0⟩ ∧
    done.content = "an-mmb" := by
  intro fixes fixes' both done
  have hfits : ∀ fix ∈ fixes, fits .text "añ" fix :=
    List.all_eq_true.1 (by decide +kernel)
  have hfits' : ∀ fix ∈ fixes', fits .text "ñb" fix :=
    List.all_eq_true.1 (by decide +kernel)
  have hseam : ∀ fix ∈ fixes, fix.isInsertion → fix.span.start ≠ 3 := by decide
  have hsize : 3 + 3 + payloadTotal .text fixes + payloadTotal .text fixes' < Word.half := by
    decide
  obtain ⟨hresolve, happly⟩ := apply_concatenated (s := .text) .firstSubmitted hfits hfits'
    (.inl hseam)
  obtain ⟨report, report', hreport, hreport', hresult, hcontent⟩ := happly hsize
  have hfirst : (apply .text "añ" fixes .firstSubmitted).result =
      .ok ⟨[⟨⟨1, 3⟩, "n", "a"⟩], [], -1⟩ := by cbv
  have hsecond : (apply .text "ñb" fixes' .firstSubmitted).result =
      .ok ⟨[.insert 0 "-" "b", ⟨⟨0, 2⟩, "mm", "b"⟩],
        [⟨2, .insert 0 "+" "c", .conflict ⟨0, 0⟩ "b" ⟨0, 0⟩⟩], 1⟩ := by cbv
  cases hfirst.symm.trans hreport
  cases hsecond.symm.trans hreport'
  refine ⟨hfits, hfits', hseam, hsize, hresolve, hresult, hcontent.trans ?_⟩
  cbv

end Batch

end Emend

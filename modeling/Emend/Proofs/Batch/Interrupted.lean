import Emend.Proofs.Batch.Substitution

/-!
# Batches that stop on the way

A document may say that it is longer than it is, and so may a payload, so that splicing can fail
on a fix whose span was a range of the document. What is then left is the document with the fixes
ahead of that one spliced in (`Batch.Spliced`), each at the place to which their growth has moved
its span (`Span.Moved`), and the error says why the next one could not be (`Batch.Refuses`). Apart
from this a batch fails only for its tag (`Fixer.applyWith_fails_iff`).

A length may be claimed that is no signed word, and then the growth of the fixes wraps round as the
shift does. It is their sum in integers where the shift can record them all
(`Batch.growth_of_run?`).

Along the run of splices, what has been done so far is `Spliced` at every step
(`Spliced.run`), and a run that stops has met a fix that is refused (`exists_refused`).
-/

namespace Emend

/-- Where a span lies behind units that have become more by `growth`. Its offsets are words. -/
structure Span.Moved (span : Span) (growth : Int) (range : Span) : Prop where
  start_eq : (range.start : Int) = span.start + growth
  stop_eq : (range.stop : Int) = span.stop + growth
  inRange : range.InRange

theorem Shift.locate_eq_ok_iff_moved {shift : Shift} {span range : Span} :
    shift.locate span = .ok range ↔ span.Moved shift.delta range := by
  rw [locate_eq_ok_iff]
  exact ⟨fun ⟨hstart, hstop, hrange⟩ => ⟨hstart, hstop, hrange⟩,
    fun ⟨hstart, hstop, hrange⟩ => ⟨hstart, hstop, hrange⟩⟩

namespace Batch

section
variable (s : Shape)

/-- By how much the fixes lengthen a document together, in signed words. -/
def growth (fixes : List (Fix s.Payload)) : Int :=
  Word.wrap (fixes.map (Fix.growth s.payloadSize)).sum

/-- What comes of `doc` when the fixes are spliced in one after the other, each where the growth of
those ahead of it has moved its span. -/
inductive Spliced (doc : s.Doc) : List (Fix s.Payload) → s.Doc → Prop
  | nil : Spliced doc [] doc
  | concat {done : List (Fix s.Payload)} {cur next : s.Doc} {fix : Fix s.Payload} {range : Span}
      (before : Spliced doc done cur) (moved : fix.span.Moved (growth s done) range)
      (splice_eq : s.splice cur range.start range.stop fix.payload = .ok next) :
      Spliced doc (done ++ [fix]) next

/-- Why the fix cannot be spliced into a document that has grown by `growth`: its span has moved to
where no words are, or what is there cannot be replaced. -/
inductive Refuses (cur : s.Doc) (growth : Int) (fix : Fix s.Payload) : FixerError → Prop
  | overflow (nowhere : ∀ range, ¬ fix.span.Moved growth range) :
      Refuses cur growth fix (.offsetOverflow fix.span growth)
  | splice {range : Span} {cause : SpliceError} (moved : fix.span.Moved growth range)
      (splice_eq : s.splice cur range.start range.stop fix.payload = .error cause) :
      Refuses cur growth fix (.spliceFailure cause)

end

variable {s : Shape} {doc cur : s.Doc} {shift shift' : Shift} {fix : Fix s.Payload}
  {done rest fixes : List (Fix s.Payload)} {e : FixerError}

theorem growth_concat (done : List (Fix s.Payload)) (fix : Fix s.Payload) :
    growth s (done ++ [fix]) = Word.wrap (growth s done + fix.growth s.payloadSize) := by
  rw [growth, growth, List.map_append, List.sum_append, List.map_singleton, List.sum_singleton,
    Word.wrap_wrap_add]

theorem sum_growth_of_run? {next : Shift} (h : shift.run? (records s fixes) = some next) :
    let total := (fixes.map fun fix =>
      Word.signed (s.payloadSize fix.payload) - Word.signed fix.span.length).sum
    (fixes.map (Fix.growth s.payloadSize)).sum = total ∧ next.delta = shift.delta + total := by
  induction fixes generalizing shift with
  | nil =>
    obtain rfl : shift = next := Option.some.inj h
    simp
  | cons fix fixes ih =>
    obtain ⟨mid, hmid, hrest⟩ := Shift.run?_cons_eq_some_iff.1 h
    obtain ⟨hgrowth, -, rfl⟩ := Shift.record?_eq_some_iff.1 hmid
    obtain ⟨hsum, hdelta⟩ := ih hrest
    dsimp only
    rw [List.map_cons, List.map_cons, List.sum_cons, List.sum_cons, hsum, hdelta, Fix.growth,
      Word.wrap_eq_self hgrowth, Int.add_assoc]
    exact ⟨rfl, rfl⟩

/-- Fixes that the shift can record in signed words make the document grow by their sum. -/
theorem growth_of_run? (h : Shift.run? .zero (records s done) = some shift) :
    growth s done = (done.map fun fix =>
      Word.signed (s.payloadSize fix.payload) - Word.signed fix.span.length).sum := by
  obtain ⟨hsum, hdelta⟩ := sum_growth_of_run? h
  have hsigned : Word.IsSigned shift.delta := by
    rw [← Shift.run_eq_of_run? h]
    exact Shift.isSigned_run (by decide)
  rw [hdelta, Shift.zero, Int.zero_add] at hsigned
  rw [growth, hsum, Word.wrap_eq_self hsigned]

theorem refuses_iff : Refuses s cur shift.delta fix e ↔ shift.locate fix.span = .error e ∨
    ∃ range cause, shift.locate fix.span = .ok range ∧
      s.splice cur range.start range.stop fix.payload = .error cause ∧
      e = .spliceFailure cause := by
  simp only [Shift.locate_eq_error_iff, Shift.locate_eq_ok_iff_moved, Ne]
  constructor
  · intro h
    cases h with
    | overflow nowhere => exact .inl ⟨rfl, nowhere⟩
    | splice moved splice_eq => exact .inr ⟨_, _, moved, splice_eq, rfl⟩
  · rintro (⟨rfl, nowhere⟩ | ⟨range, cause, moved, splice_eq, rfl⟩)
    · exact .overflow nowhere
    · exact .splice moved splice_eq

/-- A run stops at a fix that is refused. -/
theorem spliceAll_of_refuses (h : Refuses s cur shift.delta fix e)
    (rest : List (Fix s.Payload)) :
    (spliceAll s shift cur (fix :: rest)).result = .error e ∧
      (spliceAll s shift cur (fix :: rest)).content = cur := by
  rw [spliceAll]
  obtain hlocate | ⟨range, cause, hlocate, hsplice, rfl⟩ := refuses_iff.1 h
  · simp only [hlocate, and_self]
  · simp only [hlocate, hsplice, and_self]

/-- A run that stops has met a fix that is refused, behind others on which it has succeeded. -/
theorem exists_refused (h : (spliceAll s shift cur fixes).result = .error e) :
    ∃ done fix rest shift', fixes = done ++ fix :: rest ∧
      (spliceAll s shift cur done).result = .ok shift' ∧
      Refuses s (spliceAll s shift cur done).content shift'.delta fix e := by
  induction fixes generalizing shift cur with
  | nil =>
    rw [spliceAll] at h
    cases h
  | cons fix fixes ih =>
    cases hlocate : shift.locate fix.span with
    | error cause =>
      simp only [spliceAll, hlocate, Except.error.injEq] at h
      subst h
      exact ⟨[], fix, fixes, shift, rfl, rfl, refuses_iff.2 (.inl hlocate)⟩
    | ok range =>
      cases hsplice : s.splice cur range.start range.stop fix.payload with
      | error cause =>
        simp only [spliceAll, hlocate, hsplice, Except.error.injEq] at h
        subst h
        exact ⟨[], fix, fixes, shift, rfl, rfl,
          refuses_iff.2 (.inr ⟨range, cause, hlocate, hsplice, rfl⟩)⟩
      | ok next =>
        rw [spliceAll_cons hlocate hsplice] at h
        obtain ⟨done, refused, rest, shift', rfl, hdone, hrefuses⟩ := ih h
        refine ⟨fix :: done, refused, rest, shift', rfl, ?_⟩
        rw [spliceAll_cons hlocate hsplice]
        exact ⟨hdone, hrefuses⟩

/-- A run that succeeds goes on with what has been spliced in so far. -/
theorem Spliced.run {before : List (Fix s.Payload)} (hbefore : Spliced s doc before cur)
    (hdelta : shift.delta = growth s before)
    (h : (spliceAll s shift cur done).result = .ok shift') :
    Spliced s doc (before ++ done) (spliceAll s shift cur done).content ∧
      shift'.delta = growth s (before ++ done) := by
  induction done generalizing before shift cur with
  | nil =>
    obtain rfl : shift = shift' := Except.ok.inj h
    rw [List.append_nil]
    exact ⟨hbefore, hdelta⟩
  | cons fix done ih =>
    obtain ⟨range, next, hlocate, hsplice⟩ := exists_of_spliceAll_cons h
    have hmoved := Shift.locate_eq_ok_iff_moved.1 hlocate
    rw [hdelta] at hmoved
    have hnext : Spliced s doc (before ++ [fix]) next := .concat hbefore hmoved hsplice
    have hgrowth : (shift.record fix.span.length (s.payloadSize fix.payload)).delta =
        growth s (before ++ [fix]) := by
      rw [growth_concat, ← hdelta]
      rfl
    rw [spliceAll_cons hlocate hsplice] at h ⊢
    rw [List.append_cons]
    exact ih hnext hgrowth h

/-- A run on a document that succeeds has spliced the fixes in. -/
theorem spliced_of_run (h : (spliceAll s .zero doc fixes).result = .ok shift) :
    Spliced s doc fixes (spliceAll s .zero doc fixes).content ∧
      shift.delta = growth s fixes := by
  have hstart : Shift.zero.delta = growth s [] := rfl
  exact Spliced.run .nil hstart h

/-- What has been spliced in has been so by a run. -/
theorem Spliced.exists_run (h : Spliced s doc done cur) :
    ∃ shift, (spliceAll s .zero doc done).result = .ok shift ∧
      (spliceAll s .zero doc done).content = cur ∧ shift.delta = growth s done := by
  induction h with
  | nil => exact ⟨.zero, rfl, rfl, rfl⟩
  | @concat done cur next fix range before moved splice_eq ih =>
    obtain ⟨shift, hresult, rfl, hdelta⟩ := ih
    rw [← hdelta, ← Shift.locate_eq_ok_iff_moved] at moved
    rw [spliceAll_append hresult]
    dsimp only
    rw [spliceAll_cons moved splice_eq, growth_concat, ← hdelta]
    exact ⟨_, rfl, rfl, rfl⟩

/-- A run that stops leaves what the fixes ahead of the one refused have made of the document. -/
theorem spliceAll_eq_error_iff : ((spliceAll s .zero doc fixes).result = .error e ∧
      (spliceAll s .zero doc fixes).content = cur) ↔
    ∃ done fix rest, fixes = done ++ fix :: rest ∧ Spliced s doc done cur ∧
      Refuses s cur (growth s done) fix e := by
  constructor
  · rintro ⟨hresult, rfl⟩
    obtain ⟨done, fix, rest, shift, rfl, hdone, hrefuses⟩ := exists_refused hresult
    obtain ⟨hspliced, hdelta⟩ := spliced_of_run hdone
    have hcontent : (spliceAll s .zero doc (done ++ fix :: rest)).content =
        (spliceAll s .zero doc done).content := by
      rw [spliceAll_append hdone]
      exact (spliceAll_of_refuses hrefuses rest).2
    rw [hdelta] at hrefuses
    rw [hcontent]
    exact ⟨done, fix, rest, rfl, hspliced, hrefuses⟩
  · rintro ⟨done, fix, rest, rfl, hspliced, hrefuses⟩
    obtain ⟨shift, hdone, rfl, hdelta⟩ := hspliced.exists_run
    rw [← hdelta] at hrefuses
    rw [spliceAll_append hdone]
    exact spliceAll_of_refuses hrefuses rest

end Batch

namespace Fixer

variable {s : Shape} (fixer : Fixer s) (r : Representation s.Doc)
  (fixes : List (Fix s.Payload)) (policy : SamePointPolicy)

/-- A batch fails for one of two reasons. The representation may be meant for another fixer; it is
then left alone. Or one of the fixes accepted cannot be spliced in where those ahead of it have
moved its span; then these are spliced in, and neither it nor any behind it. What moves the span is
the growth of the fixes ahead of it in signed words, which is their sum in integers unless a sum
overflows on the way. -/
theorem applyWith_fails_iff :
    (∀ (e : FixerError) (after : Representation s.Doc),
      ((fixer.applyWith r fixes policy).result = .error e ∧
          (fixer.applyWith r fixes policy).content = after) ↔
        (r.tag ≠ fixer.tag ∧ e = .unsupportedRepresentation fixer.tag r.tag ∧ after = r) ∨
        (r.tag = fixer.tag ∧ ∃ done fix rest cur,
          (Batch.verdict s r.content fixes policy).accepted = done ++ fix :: rest ∧
          Batch.Spliced s r.content done cur ∧
          Batch.Refuses s cur (Batch.growth s done) fix e ∧ after = r.withContent cur)) ∧
    ∀ (done : List (Fix s.Payload)) (shift : Shift),
      Shift.run? .zero (Batch.records s done) = some shift →
        Batch.growth s done = (done.map fun fix =>
          Word.signed (s.payloadSize fix.payload) - Word.signed fix.span.length).sum := by
  refine ⟨fun e after => ?_, fun done shift hrun => Batch.growth_of_run? hrun⟩
  by_cases htag : r.tag = fixer.tag
  · have hresult : (fixer.applyWith r fixes policy).result = .error e ↔
        (Batch.spliceAll s .zero r.content
          (Batch.verdict s r.content fixes policy).accepted).result = .error e := by
      rw [result_applyWith htag]
      cases (Batch.spliceAll s .zero r.content _).result <;> simp [Except.map]
    have hcontent : (fixer.applyWith r fixes policy).content =
        r.withContent (Batch.spliceAll s .zero r.content
          (Batch.verdict s r.content fixes policy).accepted).content := by
      rw [applyWith, if_neg (not_not_intro htag), Batch.apply_eq]
    rw [hresult, hcontent]
    constructor
    · rintro ⟨hstopped, rfl⟩
      obtain ⟨done, fix, rest, hsplit, hspliced, hrefuses⟩ :=
        Batch.spliceAll_eq_error_iff.1 ⟨hstopped, rfl⟩
      exact .inr ⟨htag, done, fix, rest, _, hsplit, hspliced, hrefuses, rfl⟩
    · rintro (⟨hother, -⟩ | ⟨-, done, fix, rest, cur, hsplit, hspliced, hrefuses, rfl⟩)
      · exact absurd htag hother
      · obtain ⟨hstopped, rfl⟩ :=
          Batch.spliceAll_eq_error_iff.2 ⟨done, fix, rest, hsplit, hspliced, hrefuses⟩
        exact ⟨hstopped, rfl⟩
  · rw [applyWith, if_pos htag]
    constructor
    · rintro ⟨hresult, rfl⟩
      exact .inl ⟨htag, (Except.error.inj hresult).symm, rfl⟩
    · rintro (⟨-, rfl, rfl⟩ | ⟨hsame, -⟩)
      · exact ⟨rfl, rfl⟩
      · exact absurd hsame htag

/-- Lines and payloads that say themselves how many lines they are. -/
def claiming : Shape where
  Doc := Lines × Nat
  Payload := List String × Nat
  size := Prod.snd
  payloadSize := Prod.snd
  isBoundary doc offset := offset ≤ doc.2
  splice doc start stop payload :=
    (doc.1.splice start stop payload.1).map fun lines => (lines, doc.2)
  content doc := doc.1.toText.toUTF8

/-- The first payload claims five lines and moves the second span behind the lines that there are.
So does one that claims more lines than a signed word can count, where the growth wraps round. One
that claims almost as many lines as there are words counts as negative, and moves the second span in
front of the lines. An empty batch fails as well if it is for another tag. -/
theorem applyWith_fails_iff_claiming :
    let fixer : Fixer claiming := ⟨.line, .firstSubmitted⟩
    let r : Representation (Lines × Nat) := ⟨.line, (⟨["a", "b", "c"]⟩, 3), ⟨"f"⟩⟩
    let first (claim : Nat) : Fix (List String × Nat) := ⟨⟨0, 1⟩, (["A"], claim), "a"⟩
    let second : Fix (List String × Nat) := ⟨⟨1, 2⟩, (["B"], 1), "b"⟩
    let third : Fix (List String × Nat) := ⟨⟨2, 3⟩, (["C"], 1), "c"⟩
    let run (claim : Nat) := fixer.applyWith r [third, second, first claim] .firstSubmitted
    let after := r.withContent (⟨["A", "b", "c"]⟩, 3)
    (run 5).result = .error (.spliceFailure (.outOfBounds 5 6 3)) ∧ (run 5).content = after ∧
    Shift.run? .zero (Batch.records claiming [first 5]) = some ⟨4⟩ ∧
    Batch.growth claiming [first 5] = 4 ∧
    (run Word.half).result =
      .error (.spliceFailure (.outOfBounds Word.half (Word.half + 1) 3)) ∧
    (run Word.half).content = after ∧
    Shift.run? .zero (Batch.records claiming [first Word.half]) = none ∧
    (run (Word.bound - 1)).result = .error (.offsetOverflow ⟨1, 2⟩ (-2)) ∧
    (run (Word.bound - 1)).content = after ∧
    (fixer.applyWith { r with tag := .text } [] .firstSubmitted).result =
      .error (.unsupportedRepresentation .line .text) := by
  intro fixer r first second third run after
  have hspliced (claim : Nat) : Batch.Spliced claiming r.content [first claim] after.content := by
    have hmoved : (first claim).span.Moved (Batch.growth claiming []) ⟨0, 1⟩ :=
      ⟨rfl, rfl, by decide, by decide⟩
    exact .concat .nil hmoved rfl
  -- The batch stops at the second fix, whatever the first one claims.
  have hstops (claim : Nat) (e : FixerError)
      (hverdict : (Batch.verdict claiming r.content [third, second, first claim]
        .firstSubmitted).accepted = [first claim, second, third])
      (hrefused : Batch.Refuses claiming after.content (Batch.growth claiming [first claim])
        second e) : (run claim).result = .error e ∧ (run claim).content = after :=
    ((applyWith_fails_iff fixer r [third, second, first claim] .firstSubmitted).1 e after).2
      (.inr ⟨rfl, [first claim], second, [third], after.content, hverdict, hspliced claim,
        hrefused, rfl⟩)
  have hrecords : Shift.run? .zero (Batch.records claiming [first 5]) = some ⟨4⟩ := by
    decide +kernel
  have hlong : Batch.growth claiming [first 5] = 4 :=
    ((applyWith_fails_iff fixer r [] .firstSubmitted).2 [first 5] ⟨4⟩ hrecords).trans (by decide)
  have hround : Batch.growth claiming [first Word.half] = Word.half - 1 := by decide
  have hlow : Batch.growth claiming [first (Word.bound - 1)] = -2 := by decide
  have hmoved : second.span.Moved (Batch.growth claiming [first 5]) ⟨5, 6⟩ := by
    rw [hlong]
    exact ⟨rfl, rfl, by decide, by decide⟩
  have hmoved' : second.span.Moved (Batch.growth claiming [first Word.half])
      ⟨Word.half, Word.half + 1⟩ := by
    rw [hround]
    exact ⟨by decide, by decide, by decide, by decide⟩
  have hnowhere : ∀ range, ¬ second.span.Moved (-2) range := by
    intro range h
    have hstart : (range.start : Int) = 1 + -2 := h.start_eq
    omega
  have hrefused : Batch.Refuses claiming after.content
      (Batch.growth claiming [first (Word.bound - 1)]) second (.offsetOverflow ⟨1, 2⟩ (-2)) := by
    rw [hlow]
    exact .overflow hnowhere
  obtain ⟨hresult, hcontent⟩ := hstops 5 _ (by cbv) (.splice hmoved rfl)
  obtain ⟨hresult', hcontent'⟩ := hstops Word.half _ (by cbv) (.splice hmoved' rfl)
  obtain ⟨hresult'', hcontent''⟩ := hstops (Word.bound - 1) _ (by cbv) hrefused
  obtain ⟨hother, -⟩ := ((applyWith_fails_iff fixer { r with tag := .text } []
    .firstSubmitted).1 _ _).2 (.inl ⟨by decide, rfl, rfl⟩)
  exact ⟨hresult, hcontent, hrecords, hlong, hresult', hcontent', by decide +kernel, hresult'',
    hcontent'', hother⟩

end Fixer

end Emend

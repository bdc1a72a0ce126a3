import Mathlib
import Emend.Proofs.Batch.Splicing

/-!
# What a batch makes of a document

Applying a batch is one run of splices over the fixes that the verdict accepts (`apply_eq`). These
stand in order on boundaries of the document and their payloads are among those of the batch, so
that the document is midway from the first splice on (`midway_start`) and the run succeeds.
-/

namespace Emend

namespace Batch

section
variable (s : Shape) (doc : s.Doc) (fixes : List (Fix s.Payload)) (policy : SamePointPolicy)

/-- The rejections of the fixes whose span is no range of the document. -/
def refused : List (RejectedFix s.Payload) :=
  ((Candidate.enumerate fixes).filter fun c => !fits s doc c.fix).map (refuse s doc)

/-- The verdicts on the other fixes. -/
def verdict : Resolution s.Payload :=
  .ofCandidates policy ((Candidate.enumerate fixes).filter fun c => fits s doc c.fix)

/-- The report on a batch that has moved the end of the document by the shift. -/
def report (shift : Shift) : FixReport s.Payload :=
  ⟨(verdict s doc fixes policy).accepted,
    stableSort (fun a b => a.index ≤ b.index)
      (refused s doc fixes ++ (verdict s doc fixes policy).rejected),
    shift.delta⟩

theorem verdict_nil : verdict s doc [] policy = ⟨[], []⟩ := by
  show Resolution.ofCandidates policy [] = _
  rw [Resolution.ofCandidates, stableSort, Resolution.sweep_nil]
  rfl

theorem apply_eq : apply s doc fixes policy =
    let done := spliceAll s .zero doc (verdict s doc fixes policy).accepted
    ⟨done.content, done.result.map (report s doc fixes policy),
      (refused s doc fixes).map (fun r => .invalidSpan r.fix.origin r.fix.span (s.size doc)) ++
        (verdict s doc fixes policy).rejected.map (fun r => .skipped r.fix.origin r.reason) ++
        done.log⟩ := by
  cases fixes with
  | nil =>
    rw [verdict_nil]
    show _ = Edited.mk doc (.ok (report s doc [] policy .zero)) []
    rw [report, verdict_nil]
    rfl
  | cons fix fixes => rfl

end

section
variable {s : Shape} {doc : s.Doc} {fixes : List (Fix s.Payload)} {policy : SamePointPolicy}
  {fix : Fix s.Payload}

theorem payloadTotal_le_of_sublist {fixes' : List (Fix s.Payload)} (h : fixes.Sublist fixes') :
    payloadTotal s fixes ≤ payloadTotal s fixes' :=
  (h.map _).sum_le_sum fun _ _ => Nat.zero_le _

theorem payloadTotal_accepted_le :
    payloadTotal s (verdict s doc fixes policy).accepted ≤ payloadTotal s fixes := by
  have hsort := stableSort_perm Candidate.le
    ((Candidate.enumerate fixes).filter fun c => fits s doc c.fix)
  calc payloadTotal s (verdict s doc fixes policy).accepted
    _ ≤ payloadTotal s ((stableSort Candidate.le _).map Candidate.fix) :=
      payloadTotal_le_of_sublist Resolution.accepted_sublist
    _ = payloadTotal s (((Candidate.enumerate fixes).filter _).map Candidate.fix) :=
      ((hsort.map Candidate.fix).map _).sum_nat
    _ ≤ payloadTotal s ((Candidate.enumerate fixes).map Candidate.fix) :=
      payloadTotal_le_of_sublist (List.filter_sublist.map Candidate.fix)
    _ = payloadTotal s fixes := by rw [Candidate.map_fix_enumerate]

/-- Only fixes that fit are accepted. -/
theorem fits_of_mem_accepted (h : fix ∈ (verdict s doc fixes policy).accepted) :
    fits s doc fix := by
  obtain ⟨c, hc, rfl⟩ := Resolution.exists_of_mem_accepted h
  exact (List.mem_filter.1 (mem_stableSort.1 hc)).2

/-- In a batch of fixes that all fit, none is refused. -/
theorem refused_of_fits (h : ∀ fix ∈ fixes, fits s doc fix) : refused s doc fixes = [] := by
  have hnone : ∀ c ∈ Candidate.enumerate fixes, ¬ (!fits s doc c.fix) = true := by
    intro c hc
    rw [h c.fix (Candidate.fix_mem_of_mem_enumerate hc)]
    exact Bool.false_ne_true
  rw [refused, List.filter_eq_nil_iff.2 hnone, List.map_nil]

/-- In a batch of fixes that all fit, the verdict is on all of them. -/
theorem verdict_of_fits (h : ∀ fix ∈ fixes, fits s doc fix) :
    verdict s doc fixes policy = resolve fixes policy := by
  have hall : ∀ c ∈ Candidate.enumerate fixes, fits s doc c.fix := fun c hc =>
    h c.fix (Candidate.fix_mem_of_mem_enumerate hc)
  rw [verdict, List.filter_eq_self.2 hall, resolve]

theorem consistent_accepted : Consistent (verdict s doc fixes policy).accepted := by
  apply Resolution.consistent_sweep
  apply Resolution.ready_stableSort
  intro c hc
  exact (fits_iff.1 (List.mem_filter.1 hc).2).1

variable [s.Sequential] (policy)

theorem midway_start (hsize : s.size doc + payloadTotal s fixes < Word.half) :
    Midway doc 0 [] .zero doc (verdict s doc fixes policy).accepted where
  start_le := Nat.zero_le _
  units_eq := rfl
  length_out := rfl
  isBoundary_eq _ := rfl
  fits _ hfix := ⟨Nat.zero_le _, fits_of_mem_accepted hfix⟩
  ordered := consistent_accepted.ordered
  size_lt := Nat.lt_of_le_of_lt (Nat.le_add_right _ _) hsize
  small := Nat.lt_of_le_of_lt (Nat.add_le_add_left payloadTotal_accepted_le _) hsize

variable (doc fixes)

/-- All that the verdict accepts is spliced in, and replaces the spans all at once. -/
theorem exists_run (hsize : s.size doc + payloadTotal s fixes < Word.half) :
    ∃ shift, (spliceAll s .zero doc (verdict s doc fixes policy).accepted).result = .ok shift ∧
      shift.delta = Shift.growth (records s (verdict s doc fixes policy).accepted) ∧
      Shape.Sequential.units
          (spliceAll s .zero doc (verdict s doc fixes policy).accepted).content =
        substitute (Shape.Sequential.units doc) 0
          (edits (verdict s doc fixes policy).accepted) := by
  have hmid := midway_start policy hsize
  rw [← List.append_nil (verdict s doc fixes policy).accepted] at hmid
  obtain ⟨start, out, shift, hresult, -, hdelta, hend, hsub⟩ := hmid.run
  refine ⟨shift, hresult, hdelta.trans (Int.zero_add _), ?_⟩
  rw [List.append_nil] at hsub
  rw [hend.units_eq]
  exact hsub

end

end Batch

namespace Fixer

open Shape.Sequential (units)

section
variable {s : Shape} {fixer : Fixer s} {r : Representation s.Doc} {fixes : List (Fix s.Payload)}
  {policy : SamePointPolicy}

theorem result_applyWith (htag : r.tag = fixer.tag) :
    (fixer.applyWith r fixes policy).result =
      (Batch.spliceAll s .zero r.content
        (Batch.verdict s r.content fixes policy).accepted).result.map
          (Batch.report s r.content fixes policy) := by
  rw [applyWith, if_neg (not_not_intro htag), Batch.apply_eq]

theorem content_applyWith (htag : r.tag = fixer.tag) :
    (fixer.applyWith r fixes policy).content.content =
      (Batch.spliceAll s .zero r.content
        (Batch.verdict s r.content fixes policy).accepted).content := by
  rw [applyWith, if_neg (not_not_intro htag), Batch.apply_eq]
  rfl

theorem tag_eq_of_ok {report : FixReport s.Payload}
    (h : (fixer.applyWith r fixes policy).result = .ok report) : r.tag = fixer.tag := by
  by_cases htag : r.tag = fixer.tag
  · exact htag
  · rw [applyWith, if_pos htag] at h
    cases h

/-- A report is on a run of splices that has succeeded. -/
theorem exists_run_of_ok {report : FixReport s.Payload}
    (h : (fixer.applyWith r fixes policy).result = .ok report) :
    ∃ shift, (Batch.spliceAll s .zero r.content
        (Batch.verdict s r.content fixes policy).accepted).result = .ok shift ∧
      report = Batch.report s r.content fixes policy shift := by
  rw [result_applyWith (tag_eq_of_ok h)] at h
  cases hrun : (Batch.spliceAll s .zero r.content
      (Batch.verdict s r.content fixes policy).accepted).result with
  | error e =>
    rw [hrun] at h
    cases h
  | ok shift =>
    rw [hrun] at h
    exact ⟨shift, rfl, (Except.ok.inj h).symm⟩

end

variable {s : Shape} [s.Sequential] (fixer : Fixer s) (r : Representation s.Doc)
  (fixes : List (Fix s.Payload)) (policy : SamePointPolicy)

/-- A batch meant for a representation is reported on, and the fixes reported as applied are in. -/
theorem exists_report (htag : r.tag = fixer.tag)
    (hsize : s.size r.content + Batch.payloadTotal s fixes < Word.half) :
    ∃ report, (fixer.applyWith r fixes policy).result = .ok report ∧
      units (fixer.applyWith r fixes policy).content.content =
        substitute (units r.content) 0 (Batch.edits report.applied) := by
  obtain ⟨shift, hrun, -, hunits⟩ := Batch.exists_run r.content fixes policy hsize
  refine ⟨Batch.report s r.content fixes policy shift, ?_, ?_⟩
  · rw [result_applyWith htag, hrun]
    rfl
  · rw [content_applyWith htag]
    exact hunits

/-- A batch that is applied replaces the spans of the fixes applied all at once. The change of
length is what they make up together. -/
theorem applyWith_substitute
    (hsize : s.size r.content + Batch.payloadTotal s fixes < Word.half)
    {report : FixReport s.Payload} (h : (fixer.applyWith r fixes policy).result = .ok report) :
    let after := (fixer.applyWith r fixes policy).content.content
    report.applied.Pairwise (fun f g => f.span.stop ≤ g.span.start) ∧
    (∀ fix ∈ report.applied, fix.span.start ≤ fix.span.stop ∧ fix.span.stop ≤ s.size r.content) ∧
    units after = substitute (units r.content) 0 (Batch.edits report.applied) ∧
    report.delta =
      (report.applied.map fun fix => (s.payloadSize fix.payload : Int) - fix.span.length).sum ∧
    report.delta = (s.size after : Int) - s.size r.content := by
  have htag := tag_eq_of_ok h
  have hmid := Batch.midway_start policy hsize
  rw [← List.append_nil (Batch.verdict s r.content fixes policy).accepted] at hmid
  obtain ⟨start, out, shift, hresult, -, hdelta, hend, hsub⟩ := hmid.run
  rw [result_applyWith htag, hresult] at h
  obtain rfl : Batch.report s r.content fixes policy shift = report := Except.ok.inj h
  rw [content_applyWith htag]
  refine ⟨Batch.consistent_accepted.ordered, fun fix hfix => ?_, ?_, ?_, hend.delta_eq⟩
  · obtain ⟨hle, hstop, -, -⟩ := Batch.fits_iff.1 (Batch.fits_of_mem_accepted hfix)
    exact ⟨hle, hstop⟩
  · rw [hend.units_eq]
    rw [List.append_nil] at hsub
    exact hsub
  · have htotal : shift.delta = Shift.growth (Batch.records s _) :=
      hdelta.trans (Int.zero_add _)
    exact htotal.trans (Batch.growth_records _)

/-- An insertion ahead of a replacement, both growing, and a removal behind them, in a text with a
character of two bytes, which a fourth fix would cut in two. -/
theorem applyWith_substitute_bytes :
    let r : Representation String := ⟨.text, "añb", ⟨"f"⟩⟩
    let fixes : List (Fix String) :=
      [⟨⟨1, 3⟩, "ooo", "b"⟩, ⟨⟨2, 2⟩, "x", "c"⟩, .insert 1 "é" "a", ⟨⟨3, 4⟩, "", "a"⟩]
    let applied : List (Fix String) :=
      [.insert 1 "é" "a", ⟨⟨1, 3⟩, "ooo", "b"⟩, ⟨⟨3, 4⟩, "", "a"⟩]
    let done := Fixer.text.applyWith r fixes .firstSubmitted
    Shape.text.size r.content + Batch.payloadTotal .text fixes < Word.half ∧
    done.result = .ok ⟨applied, [⟨1, ⟨⟨2, 2⟩, "x", "c"⟩, .invalidRange ⟨2, 2⟩ 4⟩], 2⟩ ∧
    Text.bytes done.content.content =
      substitute (Text.bytes "añb") 0
        [(⟨1, 1⟩, Text.bytes "é"), (⟨1, 3⟩, Text.bytes "ooo"), (⟨3, 4⟩, Text.bytes "")] := by
  intro r fixes applied done
  have hsize : Shape.text.size r.content + Batch.payloadTotal .text fixes < Word.half := by decide
  have hresult : done.result =
      .ok ⟨applied, [⟨1, ⟨⟨2, 2⟩, "x", "c"⟩, .invalidRange ⟨2, 2⟩ 4⟩], 2⟩ := by cbv
  exact ⟨hsize, hresult,
    (applyWith_substitute Fixer.text r fixes .firstSubmitted hsize hresult).2.2.1⟩

/-- A batch meant for a representation is always applied. Wherever the run of splices has got to,
the shift is the change of length, no sum has overflowed on the way to it, and the next fix can be
spliced in. -/
theorem applyWith_ok (htag : r.tag = fixer.tag)
    (hsize : s.size r.content + Batch.payloadTotal s fixes < Word.half) :
    ∃ report, (fixer.applyWith r fixes policy).result = .ok report ∧
      ∀ done rest, report.applied = done ++ rest →
        ∃ shift, (Batch.spliceAll s .zero r.content done).result = .ok shift ∧
          let cur := (Batch.spliceAll s .zero r.content done).content
          (fixer.applyWith r fixes policy).content.content =
            (Batch.spliceAll s shift cur rest).content ∧
          -(Word.half : Int) ≤ shift.delta ∧ shift.delta < Word.half ∧
          Shift.run? .zero (Batch.records s done) = some shift ∧
          shift.delta = (s.size cur : Int) - s.size r.content ∧
          ∀ fix ∈ rest.head?, ∃ range, Batch.Spliceable s shift cur fix range ∧
            ∃ next, s.splice cur range.start range.stop fix.payload = .ok next := by
  have hmid := Batch.midway_start policy hsize
  have hall := hmid
  rw [← List.append_nil (Batch.verdict s r.content fixes policy).accepted] at hall
  obtain ⟨-, -, shift, hresult, -⟩ := hall.run
  refine ⟨Batch.report s r.content fixes policy shift, ?_, fun done rest hsplit => ?_⟩
  · rw [result_applyWith htag, hresult]
    rfl
  · replace hsplit : (Batch.verdict s r.content fixes policy).accepted = done ++ rest := hsplit
    rw [hsplit] at hmid
    obtain ⟨start, out, shift, hdone, hrecords, -, hmid, -⟩ := hmid.run
    refine ⟨shift, hdone, ?_, ?_, ?_, hrecords, hmid.delta_eq, fun fix hfix => ?_⟩
    · rw [content_applyWith htag, hsplit, Batch.spliceAll_append hdone]
    · have hdelta := hmid.delta_eq
      omega
    · have hdelta := hmid.delta_eq
      have hsmall := hmid.small
      omega
    · obtain ⟨rest, rfl⟩ := List.head?_eq_some_iff.1 hfix
      obtain ⟨range, next, hspl, hnext, -⟩ := hmid.step
      exact ⟨range, hspl, next, hnext⟩

/-- A batch for lines in which a contested insertion is rejected. -/
theorem applyWith_ok_lines :
    let r : Representation Lines := ⟨.line, ⟨["a", "b", "c"]⟩, ⟨"f"⟩⟩
    let fixes : List (Fix (List String)) :=
      [⟨⟨1, 2⟩, ["p", "q"], "b"⟩, .insert 1 ["r"] "a", .insert 1 ["r"] "b", ⟨⟨0, 1⟩, [], "a"⟩]
    r.tag = Fixer.lines.tag ∧
    Shape.lines.size r.content + Batch.payloadTotal .lines fixes < Word.half ∧
    ∃ report, (Fixer.lines.applyWith r fixes .rejectAll).result = .ok report ∧
      ∀ done rest, report.applied = done ++ rest →
        ∃ shift, (Batch.spliceAll .lines .zero r.content done).result = .ok shift ∧
          ∀ fix ∈ rest.head?, ∃ range, Batch.Spliceable .lines shift
            (Batch.spliceAll .lines .zero r.content done).content fix range := by
  intro r fixes
  have hsize : Shape.lines.size r.content + Batch.payloadTotal .lines fixes < Word.half := by
    decide
  obtain ⟨report, hresult, hrun⟩ := applyWith_ok Fixer.lines r fixes .rejectAll rfl hsize
  refine ⟨rfl, hsize, report, hresult, fun done rest hsplit => ?_⟩
  obtain ⟨shift, hdone, -, -, -, -, -, hnext⟩ := hrun done rest hsplit
  refine ⟨shift, hdone, fun fix hfix => ?_⟩
  obtain ⟨range, hspl, -⟩ := hnext fix hfix
  exact ⟨range, hspl⟩

end Fixer

end Emend

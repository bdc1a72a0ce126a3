import Emend.Proofs.Batch.Selection

/-!
# Leaving rejected fixes out

What is rejected has no part in what is applied. A batch without some of the fixes that were
rejected has the same outcome, and what is still rejected keeps its reasons; where rival insertions
are all rejected, those at one offset have to go together (`Fixer.applyWith_keeping`). What was
applied is applied again as a batch of its own (`Batch.swept_accepted`).
-/

namespace Emend

section
variable {P : Type} {keep : Nat → Bool}

/-- The fixes of a batch at the places that are kept. -/
def keeping (keep : Nat → Bool) (fixes : List (Fix P)) : List (Fix P) :=
  ((Candidate.enumerate fixes).filter (keep ·.index)).map Candidate.fix

theorem zipIdx_filter {α : Type} (keep : Nat → Bool) (l : List α) (start : Nat) :
    (((l.zipIdx start).filter (keep ·.2)).map Prod.fst).zipIdx (Nat.count (keep ·) start) =
      ((l.zipIdx start).filter (keep ·.2)).map fun p => (p.1, Nat.count (keep ·) p.2) := by
  induction l generalizing start with
  | nil => rfl
  | cons a l ih =>
    have hrest := ih (start + 1)
    rw [List.zipIdx_cons, List.filter_cons]
    rw [Nat.count_succ] at hrest
    split
    · next hkeep =>
      rw [if_pos hkeep] at hrest
      rw [List.map_cons, List.zipIdx_cons, hrest, List.map_cons]
    · next hkeep =>
      rw [if_neg hkeep] at hrest
      exact hrest

/-- A fix that is kept stands behind as many others as were kept before it. -/
theorem enumerate_keeping (fixes : List (Fix P)) : Candidate.enumerate (keeping keep fixes) =
    ((Candidate.enumerate fixes).filter (keep ·.index)).map (.moved (Nat.count (keep ·))) := by
  have hkeeping : keeping keep fixes =
      (fixes.zipIdx.filter (keep ·.2)).map Prod.fst := by
    rw [keeping, Candidate.enumerate, List.filter_map, List.map_map]
    rfl
  have hzip := zipIdx_filter keep fixes 0
  rw [Nat.count_zero, ← hkeeping] at hzip
  rw [Candidate.enumerate, Candidate.enumerate, hzip, List.filter_map, List.map_map, List.map_map]
  rfl

theorem selection_keeping (keep : Nat → Bool) (fixes : List (Fix P)) :
    Selection keep (Nat.count (keep ·)) fixes (keeping keep fixes) where
  perm := by rw [enumerate_keeping]
  stable _ _ _ _ hkeep _ _ hlt := Nat.count_strict_mono hkeep hlt

/-- What is kept of a report stays in order. -/
theorem FixReport.selected_count {report : FixReport P}
    (h : report.rejected.Pairwise fun a b => a.index ≤ b.index) :
    report.selected keep (Nat.count (keep ·)) =
      ⟨report.applied,
        (report.rejected.filter (keep ·.index)).map (.moved (Nat.count (keep ·))),
        report.delta⟩ := by
  rw [selected, inOrder_eq_self]
  exact List.pairwise_map.2 ((h.filter _).imp fun hab => Nat.count_monotone _ hab)

end

namespace Batch

variable (s : Shape) (doc : s.Doc) (fixes : List (Fix s.Payload)) (policy : SamePointPolicy)

theorem sorted_accepted : sorted s doc (verdict s doc fixes policy).accepted =
    Candidate.enumerate (verdict s doc fixes policy).accepted := by
  have hfits : ∀ c ∈ Candidate.enumerate (verdict s doc fixes policy).accepted,
      fits s doc c.fix := fun c hc =>
    fits_of_mem_accepted (Candidate.fix_mem_of_mem_enumerate hc)
  have hprecedes : (verdict s doc fixes policy).accepted.Pairwise
      fun f g => f.span.Precedes g.span := by
    refine consistent_accepted.ordered.imp_of_mem fun hf hg hfg => ?_
    obtain ⟨hf, -⟩ := fits_iff.1 (fits_of_mem_accepted hf)
    obtain ⟨hg, -⟩ := fits_iff.1 (fits_of_mem_accepted hg)
    unfold Span.Precedes
    omega
  rw [← Candidate.map_fix_enumerate (verdict s doc fixes policy).accepted, List.pairwise_map]
    at hprecedes
  rw [sorted, List.filter_eq_self.2 hfits]
  exact stableSort_eq_self (hprecedes.imp Candidate.le_iff.2)

/-- What was accepted is accepted as a batch of its own. -/
theorem swept_accepted : swept s doc (verdict s doc fixes policy).accepted policy =
    ⟨(verdict s doc fixes policy).accepted, []⟩ := by
  have hready : Resolution.Ready none (sorted s doc (verdict s doc fixes policy).accepted) :=
    ready_sorted
  have hconsistent : Consistent (verdict s doc fixes policy).accepted := consistent_accepted
  rw [sorted_accepted] at hready
  rw [← Candidate.map_fix_enumerate (verdict s doc fixes policy).accepted] at hconsistent
  rw [swept, sorted_accepted, Resolution.sweep_of_consistent hready hconsistent,
    Candidate.map_fix_enumerate]

theorem rejections_accepted :
    rejections s doc (verdict s doc fixes policy).accepted policy = [] := by
  rw [rejections, swept_accepted, refused_of_fits fun fix => fits_of_mem_accepted]
  rfl

end Batch

namespace Fixer

variable {s : Shape} (fixer : Fixer s) (r : Representation s.Doc) (fixes : List (Fix s.Payload))
  {policy : SamePointPolicy}

theorem applyWith_accepted (policy : SamePointPolicy) :
    (fixer.applyWith r (Batch.verdict s r.content fixes policy).accepted policy).content =
      (fixer.applyWith r fixes policy).content ∧
    (fixer.applyWith r (Batch.verdict s r.content fixes policy).accepted policy).result =
      (fixer.applyWith r fixes policy).result.map fun report =>
        ⟨report.applied, [], report.delta⟩ := by
  have haccepted := congrArg Resolution.accepted
    (Batch.swept_accepted s r.content fixes policy)
  refine fixer.applyWith_of_report r haccepted fun shift => ?_
  rw [Batch.report_eq, Batch.swept_accepted, Batch.rejections_accepted]
  rfl

/-- Take out of a batch some of the fixes that were rejected. Then the same fixes are applied, and
those still rejected are so for the same reasons. Where rival insertions are all rejected, those
rejected at one offset are all taken out or none of them is. And the fixes applied, as a batch of
their own, are all applied. -/
theorem applyWith_keeping (keep : Nat → Bool) {report : FixReport s.Payload}
    (h : (fixer.applyWith r fixes policy).result = .ok report)
    (hrejected : ∀ i < fixes.length, ¬ keep i → ∃ x ∈ report.rejected, x.index = i)
    (hwhole : policy = .rejectAll → ∀ x ∈ report.rejected, ∀ y ∈ report.rejected,
      x.fix.isInsertion → y.fix.isInsertion → x.fix.span.start = y.fix.span.start →
        keep x.index = keep y.index) :
    (fixer.applyWith r (keeping keep fixes) policy).content =
      (fixer.applyWith r fixes policy).content ∧
    (fixer.applyWith r (keeping keep fixes) policy).result =
      .ok ⟨report.applied,
        (report.rejected.filter (keep ·.index)).map (.moved (Nat.count (keep ·))),
        report.delta⟩ ∧
    (fixer.applyWith r report.applied policy).content =
      (fixer.applyWith r fixes policy).content ∧
    (fixer.applyWith r report.applied policy).result = .ok ⟨report.applied, [], report.delta⟩ := by
  have hexp : Resolution.Expendable policy keep (Candidate.enumerate fixes)
      (Batch.rejections s r.content fixes policy) := by
    constructor
    · intro c hc hkeep
      obtain ⟨x, hx, hindex⟩ := hrejected _ (Candidate.index_lt_of_mem_enumerate hc) hkeep
      obtain rfl := Candidate.eq_of_index_eq (candidate_mem_of_mem_rejected h hx) hc hindex
      exact List.mem_map_of_mem ((mem_rejected_iff h).1 hx)
    · intro hpolicy x hx y hy
      exact hwhole hpolicy x ((mem_rejected_iff h).2 hx) y ((mem_rejected_iff h).2 hy)
  obtain ⟨hcontent, hresult⟩ := fixer.applyWith_selection r (selection_keeping keep fixes) hexp
  obtain ⟨hcontent', hresult'⟩ := fixer.applyWith_accepted r fixes policy
  rw [h] at hresult hresult'
  obtain ⟨shift, rfl⟩ := exists_report_eq h
  refine ⟨hcontent, ?_, hcontent', hresult'⟩
  rw [hresult]
  exact congrArg Except.ok (FixReport.selected_count (pairwise_inOrder _))

/-- Two rival insertions at one point, neither of which is accepted, and a replacement that starts
inside one submitted before it. Then the replacement is taken out, and then the insertions. -/
theorem applyWith_keeping_rivals :
    let r : Representation Lines := ⟨.line, ⟨["a", "b", "c"]⟩, ⟨"f"⟩⟩
    let fst : Fix (List String) := .insert 1 ["r"] "a"
    let first : Fix (List String) := ⟨⟨1, 3⟩, ["p", "q"], "b"⟩
    let snd : Fix (List String) := .insert 1 ["r"] "b"
    let inside : Fix (List String) := ⟨⟨2, 3⟩, [], "a"⟩
    let claim (i : Nat) (fix : Fix (List String)) : RejectedFix (List String) :=
      ⟨i, fix, .conflict fix.span "b" first.span⟩
    (Fixer.lines.applyWith r [inside, fst, first, snd] .rejectAll).result =
      .ok ⟨[first], [claim 0 inside, ⟨1, fst, .conflict fst.span "b" snd.span⟩,
        ⟨3, snd, .conflict snd.span "a" fst.span⟩], 0⟩ ∧
    (Fixer.lines.applyWith r [fst, first, snd] .rejectAll).result =
      .ok ⟨[first], [⟨0, fst, .conflict fst.span "b" snd.span⟩,
        ⟨2, snd, .conflict snd.span "a" fst.span⟩], 0⟩ ∧
    (Fixer.lines.applyWith r [inside, first] .rejectAll).result =
      .ok ⟨[first], [claim 0 inside], 0⟩ ∧
    (Fixer.lines.applyWith r [first] .rejectAll).result = .ok ⟨[first], [], 0⟩ := by
  intro r fst first snd inside claim
  have hresult : (Fixer.lines.applyWith r [inside, fst, first, snd] .rejectAll).result =
      .ok ⟨[first], [claim 0 inside, ⟨1, fst, .conflict fst.span "b" snd.span⟩,
        ⟨3, snd, .conflict snd.span "a" fst.span⟩], 0⟩ := by cbv
  obtain ⟨-, houtside, -, hagain⟩ := applyWith_keeping Fixer.lines r [inside, fst, first, snd]
    (· != 0) hresult (by decide) (by decide)
  obtain ⟨-, halone, -, -⟩ := applyWith_keeping Fixer.lines r [inside, fst, first, snd]
    (fun i => i != 1 && i != 3) hresult (by decide) (by decide)
  exact ⟨hresult, houtside, halone, hagain⟩

/-- One of the rivals alone is taken out, and the other one is applied. -/
example : (Fixer.lines.applyWith ⟨.line, ⟨["a"]⟩, ⟨"f"⟩⟩ [.insert 1 ["r"] "a", .insert 1 ["r"] "b"]
      .rejectAll).result.map FixReport.appliedCount = .ok 0 ∧
    (Fixer.lines.applyWith ⟨.line, ⟨["a"]⟩, ⟨"f"⟩⟩ [.insert 1 ["r"] "b"]
      .rejectAll).result.map FixReport.appliedCount = .ok 1 := by
  constructor <;> cbv

end Fixer

end Emend

import Emend.Proofs.Batch.Report
import Emend.Proofs.Resolution.Point

/-!
# The insertions at one point of a document

Insertions at one offset have one span, so that either all of them fit or none does, and those that
fit stand in the arrangement of the batch as they were submitted (`Batch.insertsAt_sorted`). Unless
a fix is applied that encloses the offset, a report therefore has the verdicts on them that come of
settling them by themselves (`Fixer.insertionsAt_verdicts`).
-/

namespace Emend

/-- The verdicts that a report lists. -/
def FixReport.verdicts {P : Type} (report : FixReport P) : Resolution P :=
  ⟨report.applied, report.rejected⟩

variable {s : Shape} {doc : s.Doc} {fixes : List (Fix s.Payload)} {policy : SamePointPolicy}
  {offset : Nat} {first : Candidate s.Payload} {more : List (Candidate s.Payload)}

namespace Batch

theorem insertsAt_sorted (hvalid : ¬ Unfit s doc (.empty offset)) :
    (sorted s doc fixes).filter (Resolution.insertsAt offset) =
      (Candidate.enumerate fixes).filter (Resolution.insertsAt offset) := by
  have hspan : ∀ c ∈ (Candidate.enumerate fixes).filter (Resolution.insertsAt offset),
      c.fix.span = .empty offset := fun c hc =>
    Fix.isInsertedAt_iff.1 (List.mem_filter.1 hc).2
  have hfits : ∀ c ∈ (Candidate.enumerate fixes).filter (Resolution.insertsAt offset),
      fits s doc c.fix := by
    intro c hc
    rwa [← hspan c hc, unfit_iff, not_not] at hvalid
  rw [sorted, filter_stableSort Candidate.le_total Candidate.le_trans, List.filter_comm,
    List.filter_eq_self.2 hfits]
  apply stableSort_eq_self
  refine List.pairwise_of_forall_mem_list fun c hc d hd => ?_
  rw [Candidate.le_iff, hspan c hc, hspan d hd]
  exact .inr ⟨rfl, Nat.le_refl _⟩

/-- No insertion at an offset that fits is refused. -/
theorem insertsAt_refused (hvalid : ¬ Unfit s doc (.empty offset)) :
    (refused s doc fixes).filter (·.fix.isInsertedAt offset) = [] := by
  rw [List.filter_eq_nil_iff]
  intro x hx hat
  obtain ⟨-, hunfit, -⟩ := mem_refused_iff.1 hx
  rw [Fix.isInsertedAt_iff.1 hat] at hunfit
  exact hvalid hunfit

/-- The insertions rejected at one point come in the order in which they were submitted. -/
theorem inOrder_rejected_settle {group : List (Candidate s.Payload)} (hfirst : first ∈ group)
    (hsub : group.Sublist (Candidate.enumerate fixes)) :
    inOrder (Resolution.settle policy first group).rejected =
      (Resolution.settle policy first group).rejected := by
  have hplaces := (Candidate.pairwise_index_enumerate fixes).sublist hsub
  have hrejected := hplaces.filter fun c => !Resolution.keeps policy first group c
  rw [← Resolution.candidate_rejected_settle hfirst, List.pairwise_map] at hrejected
  exact inOrder_eq_self (hrejected.imp Nat.le_of_lt)

end Batch

namespace Fixer

variable {fixer : Fixer s} {r : Representation s.Doc} {report : FixReport s.Payload}
  (h : (fixer.applyWith r fixes policy).result = .ok report)
include h

theorem consistent_applied : Consistent report.applied := by
  obtain ⟨shift, rfl⟩ := exists_report_eq h
  exact Batch.consistent_accepted

/-- Nothing is inserted where a fix is applied that encloses the offset. -/
theorem not_isInsertedAt_of_encloses {fix : Fix s.Payload} (hfix : fix ∈ report.applied)
    (hencloses : fix.span.Encloses offset) :
    ∀ other ∈ report.applied, ¬ other.isInsertedAt offset := by
  intro other hother hat
  have hspan := Fix.isInsertedAt_iff.1 hat
  have hins : other.isInsertion := Fix.isInsertion_iff.2 (by rw [hspan]; rfl)
  refine (consistent_applied h).not_overlaps hother hfix hins ?_
  rw [Fix.overlaps_iff_encloses hins, hspan]
  exact hencloses

/-- Either a fix is applied that encloses the offset, or the insertions there are settled. -/
theorem insertionsAt_verdicts (hvalid : ¬ Batch.Unfit s r.content (.empty offset))
    (hat : (Candidate.enumerate fixes).filter (Resolution.insertsAt offset) = first :: more) :
    (∃ fix ∈ report.applied, fix.span.Encloses offset) ∨
      report.verdicts.insertionsAt offset =
        Resolution.settle policy first (first :: more) := by
  obtain ⟨shift, rfl⟩ := exists_report_eq h
  rw [Batch.report_eq]
  have hsorted := (Batch.insertsAt_sorted hvalid).trans hat
  have hsweep := Resolution.insertionsAt_sweep policy none Batch.ready_sorted.sorted hsorted
  refine hsweep.imp id fun hsettled => ?_
  obtain ⟨haccepted, hrejected⟩ := Resolution.mk.inj hsettled
  have hlisted : (inOrder (Batch.rejections s r.content fixes policy)).filter
      (·.fix.isInsertedAt offset) =
        (Resolution.settle policy first (first :: more)).rejected := by
    rw [inOrder, filter_stableSort (key_le_total _) (key_le_trans _), Batch.rejections,
      List.filter_append, Batch.insertsAt_refused hvalid, List.nil_append]
    refine (congrArg inOrder hrejected).trans ?_
    exact Batch.inOrder_rejected_settle List.mem_cons_self (hat ▸ List.filter_sublist)
  exact congrArg₂ Resolution.mk haccepted hlisted

/-- If the insertions at an offset begin with those of one origin, and it lies inside no applied
fix, these are applied in their order and the others are rejected for them. -/
theorem insertionsAt_of_first (hpolicy : policy = .firstSubmitted)
    (hvalid : ¬ Batch.Unfit s r.content (.empty offset)) {own others : List (Fix s.Payload)}
    {origin : String} (hat : fixes.filter (·.isInsertedAt offset) = own ++ others)
    (hne : own ≠ []) (hown : ∀ fix ∈ own, fix.origin = origin)
    (hothers : ∀ fix ∈ others, fix.origin ≠ origin)
    (hfree : ¬ ∃ fix ∈ report.applied, fix.span.Encloses offset) :
    report.applied.filter (·.isInsertedAt offset) = own ∧
    (report.rejected.filter (·.fix.isInsertedAt offset)).map (fun x => (x.fix, x.reason)) =
      others.map fun fix => (fix, .conflict (.empty offset) origin (.empty offset)) := by
  have hgroup := (Resolution.map_fix_insertsAt fixes).trans hat
  have hspan : ∀ fix ∈ own ++ others, fix.span = .empty offset := by
    intro fix hfix
    rw [← hat] at hfix
    exact Fix.isInsertedAt_iff.1 (List.mem_filter.1 hfix).2
  obtain ⟨fix, rest, rfl⟩ := List.exists_cons_of_ne_nil hne
  obtain ⟨first, more, hfirst, hfix, -⟩ := List.map_eq_cons_iff.1 hgroup
  rw [hfirst] at hgroup
  obtain rfl : first.fix.origin = origin := hfix ▸ hown fix List.mem_cons_self
  obtain ⟨haccepted, hrejected⟩ := Resolution.settle_firstSubmitted_append hgroup hown hothers
  have hverdicts := (insertionsAt_verdicts h hvalid hfirst).resolve_left hfree
  rw [hpolicy] at hverdicts
  refine ⟨(congrArg Resolution.accepted hverdicts).trans haccepted, ?_⟩
  refine (congrArg (fun v => v.rejected.map fun x => (x.fix, x.reason)) hverdicts).trans ?_
  rw [hrejected]
  refine List.map_congr_left fun other hother => ?_
  rw [hspan other (List.mem_append_right _ hother), hfix, hspan fix List.mem_cons_self]

end Fixer

end Emend

import Emend.Proofs.Resolution.Partition
import Emend.Proofs.Resolution.Seam

/-!
# What the policy decides

Under either policy the sweep may go on from another last fix, once the one has accepted insertions
that the other has not. But an insertion blocks nothing: whatever comes behind it is claimed by
neither. So the candidates claimed are the same, and they are claimed by the same fixes
(`overlaps_sweep`), and the policy decides on rival insertions only. Those that nothing claims are
all rejected if no rival is to be accepted (`not_rival_of_mem_accepted`).
-/

namespace Emend

variable {P : Type}

/-- Is the rejection for a fix that the rejected one overlaps? -/
def Rejection.isOverlap : Rejection → Bool
  | invalidRange .. => false
  | conflict span _ other => span.overlaps other

/-- The fix at the place is rejected. -/
def Resolution.Rejects (v : Resolution P) (place : Nat) : Prop :=
  ∃ r ∈ v.rejected, r.index = place

/-- The rejections for a fix that the rejected one overlaps. -/
def Resolution.overlaps (v : Resolution P) : List (RejectedFix P) :=
  v.rejected.filter (·.reason.isOverlap)

namespace Resolution

variable {policy policy' : SamePointPolicy} {last last' : Option (Fix P)} {c : Candidate P}
  {rest cs : List (Candidate P)}

/-! ## Two sweeps -/

theorem overlaps_append (a b : Resolution P) :
    (append a b).overlaps = a.overlaps ++ b.overlaps :=
  List.filter_append _ _

/-- What is rejected among the insertions at one point is not rejected for an overlap. -/
theorem overlaps_settle_run (hc : c.fix.isInsertion) :
    (settle policy c (run c rest)).overlaps = [] := by
  refine List.filter_eq_nil_iff.2 fun r hr => ?_
  obtain ⟨d, hd, other, hother, rfl, -⟩ := exists_of_mem_rejected_settle (self_mem_run c rest) hr
  exact Fix.not_overlaps_of_isInsertion (insertsAt_iff.1 (insertsAt_of_mem_run hc hd)).1
    (insertsAt_iff.1 (insertsAt_of_mem_run hc hother)).1

theorem frontier_settled_le (policy : SamePointPolicy) (rest : List (Candidate P))
    (hc : c.fix.isInsertion) (h : frontier last ≤ c.fix.span.start) :
    frontier ((settle policy c (run c rest)).accepted.getLast?.or last) ≤ c.fix.span.start := by
  cases hacc : (settle policy c (run c rest)).accepted with
  | nil => exact h
  | cons fix fixes =>
    rw [← hacc]
    exact Nat.le_of_eq (frontier_settled hc (hacc ▸ List.mem_cons_self))

/-- Behind a run of insertions nothing is claimed by them, nor by what was accepted before. -/
theorem claimant?_behind (hready : Ready last (c :: rest)) (hcl : claimant? last c = none)
    (hc : c.fix.isInsertion) {d : Candidate P} (hd : d ∈ behind c rest) :
    claimant? ((settle policy c (run c rest)).accepted.getLast?.or last) d = none := by
  have hle := frontier_settled_le policy rest hc (hready.claimant?_eq_none_iff.1 hcl)
  have hmem : d ∈ rest := (List.dropWhile_sublist _).subset hd
  have hcd := (List.pairwise_cons.1 hready.sorted).1 d hmem
  apply claimant?_eq_none_of_le
  unfold Span.Precedes at hcd
  omega

/-- Two sweeps for which the same candidates are claimed reject the same for overlaps. -/
theorem overlaps_sweep (policy policy' : SamePointPolicy) (hready : Ready last cs)
    (hready' : Ready last' cs) (h : ∀ c ∈ cs, claimant? last c = claimant? last' c) :
    (sweep policy last cs).overlaps = (sweep policy' last' cs).overlaps := by
  induction last, cs using sweep_induction policy generalizing last' with
  | nil last => rw [sweep_nil, sweep_nil]
  | claimed last c rest claimant hcl ih =>
    obtain ⟨hc, hrest⟩ := List.forall_mem_cons.1 h
    rw [sweep_of_claimant hcl, sweep_of_claimant (hc ▸ hcl), overlaps_append, overlaps_append,
      ih hready.skip hready'.skip hrest]
  | insertion last c rest hcl hc ih =>
    have hcl' : claimant? last' c = none := (h c List.mem_cons_self).symm.trans hcl
    rw [sweep_of_insertion hcl hc, sweep_of_insertion hcl' hc, overlaps_append, overlaps_append,
      overlaps_settle_run hc, overlaps_settle_run hc]
    congr 1
    refine ih hready.settled hready'.settled fun d hd => ?_
    rw [claimant?_behind hready hcl hc hd, claimant?_behind hready' hcl' hc hd]
  | replacement last c rest hcl hc ih =>
    have hcl' : claimant? last' c = none := (h c List.mem_cons_self).symm.trans hcl
    rw [sweep_of_replacement hcl hc, sweep_of_replacement hcl' hc, overlaps_append,
      overlaps_append, ih hready.accept hready'.accept fun _ _ => rfl]

/-! ## Rivals -/

/-- If rival insertions are all rejected, what is accepted has no rival among the candidates. -/
theorem not_rival_of_mem_accepted (hready : Ready last cs) {fix : Fix P}
    (hfix : fix ∈ (sweep .rejectAll last cs).accepted) :
    ∀ d ∈ cs, ¬ fix.Rival d.fix := by
  induction last, cs using sweep_induction .rejectAll with
  | nil last => exact nofun
  | claimed last c rest claimant hcl ih =>
    rw [sweep_of_claimant hcl] at hfix
    refine List.forall_mem_cons.2 ⟨fun hrival => ?_, ih hready.skip hfix⟩
    -- what is claimed starts inside the last fix, and what is accepted behind it does not
    obtain ⟨-, -, hstart, -⟩ := hrival
    have hle := frontier_le_of_mem_accepted hready.skip hfix
    have hclaimed := mt hready.claimant?_eq_none_iff.2 (by simp [hcl])
    omega
  | insertion last c rest hcl hc ih =>
    have hbehind : ∀ d ∈ behind c rest, ¬ insertsAt c.fix.span.start d := fun d hd =>
      not_insertsAt_of_mem_behind hc hready.sorted hd
    rw [sweep_of_insertion hcl hc] at hfix
    rw [← run_append_behind c rest]
    rcases List.mem_append.1 hfix with hfix | hfix
    · obtain ⟨-, hstart⟩ := accepted_settle_run hc hfix
      rintro d hd ⟨-, hins, hsame, horigin⟩
      rcases List.mem_append.1 hd with hd | hd
      · -- if one of the run is accepted, they all have one origin
        have hall : (run c rest).all fun d => d.fix.origin == c.fix.origin := by
          by_contra hrivals
          rw [settle_rejectAll hrivals] at hfix
          cases hfix
        have horigin' : d.fix.origin = c.fix.origin := by
          simpa using List.all_eq_true.1 hall d hd
        exact horigin ((origin_eq_of_mem_accepted_settle hfix).trans horigin'.symm)
      · exact hbehind d hd (insertsAt_iff.2 ⟨hins, hsame.symm.trans hstart⟩)
    · rintro d hd hrival
      rcases List.mem_append.1 hd with hd | hd
      · obtain ⟨hins, -, hsame, -⟩ := hrival
        obtain ⟨e, he, rfl⟩ := exists_of_mem_accepted hfix
        have hstart := (insertsAt_iff.1 (insertsAt_of_mem_run hc hd)).2
        exact hbehind e he (insertsAt_iff.2 ⟨hins, hsame.trans hstart⟩)
      · exact ih hready.settled hfix d hd hrival
  | replacement last c rest hcl hc ih =>
    rw [sweep_of_replacement hcl hc] at hfix
    rcases List.mem_cons.1 hfix with rfl | hfix
    · rintro d - ⟨hins, -⟩
      exact hc hins
    · refine List.forall_mem_cons.2 ⟨?_, ih hready.accept hfix⟩
      rintro ⟨-, hins, -⟩
      exact hc hins

end Resolution

/-! ## Batches -/

section
variable {fixes : List (Fix P)} {policy : SamePointPolicy} {place : Nat} {fix other : Fix P}

theorem mem_accepted_of_not_rejects (hfix : fixes[place]? = some fix)
    (h : ¬ (resolve fixes policy).Rejects place) : fix ∈ (resolve fixes policy).accepted := by
  have hmem : Candidate.mk place fix ∈
      stableSort Candidate.le (Candidate.enumerate fixes) :=
    mem_stableSort.2 (Candidate.mem_enumerate_iff.2 hfix)
  rw [accepted_resolve]
  refine List.mem_map_of_mem (List.mem_filter.2 ⟨hmem, ?_⟩)
  simpa [Resolution.Rejects] using h

variable (hvalid : ∀ fix ∈ fixes, fix.span.start ≤ fix.span.stop)
include hvalid

theorem ready_enumerate :
    Resolution.Ready none (stableSort Candidate.le (Candidate.enumerate fixes)) :=
  Resolution.ready_stableSort fun c hc => hvalid c.fix (Candidate.fix_mem_of_mem_enumerate hc)

/-- Under either policy the same is rejected for overlaps. -/
theorem overlaps_resolve (policy policy' : SamePointPolicy) :
    (resolve fixes policy).overlaps = (resolve fixes policy').overlaps := by
  have hready := ready_enumerate hvalid
  have hsweep := Resolution.overlaps_sweep policy policy' hready hready fun _ _ => rfl
  have hsorted : ∀ policy, (resolve fixes policy).overlaps = stableSort
      (fun a b => a.index ≤ b.index) (Resolution.sweep policy none
        (stableSort Candidate.le (Candidate.enumerate fixes))).overlaps := fun policy =>
    filter_stableSort (key_le_total RejectedFix.index) (key_le_trans RejectedFix.index) _
  rw [hsorted, hsorted, hsweep]

theorem consistent_resolve : Consistent (resolve fixes policy).accepted :=
  Resolution.consistent_sweep (ready_enumerate hvalid)

omit hvalid in
/-- What is rejected is so for an overlap, unless it has a rival. -/
theorem overlaps_or_rival_of_rejects (hfix : fixes[place]? = some fix)
    (h : (resolve fixes policy).Rejects place) :
    (∃ r ∈ (resolve fixes policy).overlaps, r.index = place) ∨
      ∃ other ∈ fixes, fix.Rival other := by
  obtain ⟨r, hr, rfl⟩ := h
  obtain ⟨hsubmitted, culprit, hreason, ⟨hover, -⟩ | ⟨hrival, hmem⟩⟩ :=
    justified_resolve fixes policy hr
  · refine .inl ⟨r, List.mem_filter.2 ⟨hr, ?_⟩, rfl⟩
    rw [hreason]
    exact hover
  · obtain rfl := Option.some.inj (hsubmitted.symm.trans hfix)
    refine .inr ⟨culprit, ?_, hrival⟩
    cases policy with
    | firstSubmitted =>
      exact (resolve_perm fixes .firstSubmitted).subset (List.mem_append_left _ hmem)
    | rejectAll => exact hmem

/-- Where rivals are all rejected, a fix that has one is. -/
theorem rejects_of_rival (hfix : fixes[place]? = some fix) (hother : other ∈ fixes)
    (hrival : fix.Rival other) : (resolve fixes .rejectAll).Rejects place := by
  by_contra hkept
  obtain ⟨index, hindex⟩ := List.getElem?_of_mem hother
  have hmem : Candidate.mk index other ∈
      stableSort Candidate.le (Candidate.enumerate fixes) :=
    mem_stableSort.2 (Candidate.mem_enumerate_iff.2 hindex)
  exact Resolution.not_rival_of_mem_accepted (ready_enumerate hvalid)
    (mem_accepted_of_not_rejects hfix hkept) _ hmem hrival

/-- An insertion that is accepted at one place is accepted at each. -/
theorem not_rejects_of_mem_accepted (hfix : fixes[place]? = some fix) (hins : fix.isInsertion)
    (haccepted : fix ∈ (resolve fixes .firstSubmitted).accepted) :
    ¬ (resolve fixes .firstSubmitted).Rejects place := by
  rintro ⟨r, hr, rfl⟩
  obtain ⟨hsubmitted, culprit, -, ⟨hover, hmem⟩ | ⟨hrival, hmem⟩⟩ :=
    justified_resolve fixes .firstSubmitted hr
  all_goals obtain rfl := Option.some.inj (hsubmitted.symm.trans hfix)
  · exact (consistent_resolve hvalid).not_overlaps haccepted hmem hins hover
  · exact (consistent_resolve hvalid).agreed _ haccepted _ hmem hrival

variable (fixes)

/-- What is rejected where the first origin at a point is accepted is rejected too where no rival
is. What is rejected in the second case only are the insertions accepted in the first that have a
rival in the batch. And in both cases the same fixes are rejected for overlaps, for the same
ones. -/
theorem resolve_differs_on_rivals :
    (∀ place fix, fixes[place]? = some fix →
      ((resolve fixes .firstSubmitted).Rejects place →
        (resolve fixes .rejectAll).Rejects place) ∧
      ((resolve fixes .rejectAll).Rejects place ∧ ¬ (resolve fixes .firstSubmitted).Rejects place ↔
        fix ∈ (resolve fixes .firstSubmitted).accepted ∧ ∃ other ∈ fixes, fix.Rival other)) ∧
    (resolve fixes .firstSubmitted).overlaps = (resolve fixes .rejectAll).overlaps := by
  have hover : (resolve fixes .firstSubmitted).overlaps = (resolve fixes .rejectAll).overlaps :=
    overlaps_resolve hvalid _ _
  refine ⟨fun place fix hfix => ⟨fun hfirst => ?_, ?_, ?_⟩, hover⟩
  · rcases overlaps_or_rival_of_rejects hfix hfirst with ⟨r, hr, hplace⟩ | ⟨other, hother, hrival⟩
    · rw [hover] at hr
      exact ⟨r, List.mem_of_mem_filter hr, hplace⟩
    · exact rejects_of_rival hvalid hfix hother hrival
  · rintro ⟨hstrict, hfirst⟩
    refine ⟨mem_accepted_of_not_rejects hfix hfirst, ?_⟩
    rcases overlaps_or_rival_of_rejects hfix hstrict with ⟨r, hr, hplace⟩ | hrival
    · rw [← hover] at hr
      exact absurd ⟨r, List.mem_of_mem_filter hr, hplace⟩ hfirst
    · exact hrival
  · rintro ⟨haccepted, other, hother, hrival⟩
    exact ⟨rejects_of_rival hvalid hfix hother hrival,
      not_rejects_of_mem_accepted hvalid hfix hrival.1 haccepted⟩

end

/-- Two rivals, of which the first is accepted or neither is, and a replacement from their point
with a fix inside. -/
theorem resolve_differs_on_rivals_dropped :
    let fixes : List (Fix String) :=
      [.insert 2 "q" "a", ⟨⟨3, 5⟩, "p", "a"⟩, .insert 2 "s" "b", ⟨⟨2, 4⟩, "r", "b"⟩]
    let first := resolve fixes .firstSubmitted
    let strict := resolve fixes .rejectAll
    (∀ fix ∈ fixes, fix.span.start ≤ fix.span.stop) ∧
    first.accepted = [.insert 2 "q" "a", ⟨⟨2, 4⟩, "r", "b"⟩] ∧
    strict.accepted = [⟨⟨2, 4⟩, "r", "b"⟩] ∧
    strict.Rejects 0 ∧ ¬ first.Rejects 0 ∧
    strict.overlaps = [⟨1, ⟨⟨3, 5⟩, "p", "a"⟩, .conflict ⟨3, 5⟩ "b" ⟨2, 4⟩⟩] := by
  intro fixes first strict
  have hvalid : ∀ fix ∈ fixes, fix.span.start ≤ fix.span.stop := by decide
  have haccepted : first.accepted = [.insert 2 "q" "a", ⟨⟨2, 4⟩, "r", "b"⟩] := by cbv
  have hover : first.overlaps = [⟨1, ⟨⟨3, 5⟩, "p", "a"⟩, .conflict ⟨3, 5⟩ "b" ⟨2, 4⟩⟩] := by cbv
  obtain ⟨hplaces, hsame⟩ := resolve_differs_on_rivals fixes hvalid
  obtain ⟨-, hiff⟩ := hplaces 0 (.insert 2 "q" "a") rfl
  have hrival : (Fix.insert 2 "q" "a").Rival (.insert 2 "s" "b") := by
    simp [Fix.Rival, Fix.insert, Fix.isInsertion, Span.empty]
  obtain ⟨hstrict, hfirst⟩ := hiff.2
    ⟨haccepted ▸ List.mem_cons_self, _, List.mem_of_getElem? (i := 2) rfl, hrival⟩
  exact ⟨hvalid, haccepted, by cbv, hstrict, hfirst, hsame.symm.trans hover⟩

end Emend

import Mathlib
import Emend.Proofs.Resolution.Soundness

/-!
# Leaving candidates out

A candidate that the sweep rejects does not tell on the others: it is not the last one accepted,
and what it is at odds with is still there when it is gone. So the sweep can do without some of
them (`sweep_filter`). Where rival insertions are all rejected each of them counts for the others,
and those of one point can only be left out together (`Expendable.whole`).

If all that the sweep rejects is left out, it accepts what is left (`sweep_of_consistent`).
-/

namespace Emend

namespace Resolution

variable {P : Type} {policy : SamePointPolicy} {last : Option (Fix P)} {c first : Candidate P}
  {rest cs group : List (Candidate P)} {keep : Nat → Bool}

/-- The verdicts with the rejections that are kept. -/
def kept (keep : Nat → Bool) (v : Resolution P) : Resolution P :=
  ⟨v.accepted, v.rejected.filter (keep ·.index)⟩

/-- The candidates that are not kept are rejected, and where rival insertions are all rejected
those of one point are kept together. -/
structure Expendable (policy : SamePointPolicy) (keep : Nat → Bool) (cs : List (Candidate P))
    (rejected : List (RejectedFix P)) : Prop where
  rejected_of_not_keep : ∀ c ∈ cs, ¬ keep c.index → c ∈ rejected.map RejectedFix.candidate
  whole : policy = .rejectAll → ∀ x ∈ rejected, ∀ y ∈ rejected, x.fix.isInsertion →
    y.fix.isInsertion → x.fix.span.start = y.fix.span.start → keep x.index = keep y.index

namespace Expendable

variable {fore back : List (Candidate P)} {gone rejected : List (RejectedFix P)}

theorem keep_of_notMem (h : Expendable policy keep cs rejected) (hc : c ∈ cs)
    (hmem : c ∉ rejected.map RejectedFix.candidate) : keep c.index :=
  Decidable.by_contra fun hkeep => hmem (h.rejected_of_not_keep c hc hkeep)

/-- What holds of the candidates in front, if those behind are others. -/
theorem front (h : Expendable policy keep (fore ++ back) (gone ++ rejected))
    (hnodup : (fore ++ back).Nodup) (hrejected : rejected.map RejectedFix.candidate ⊆ back) :
    Expendable policy keep fore gone where
  rejected_of_not_keep c hc hkeep := by
    have hmem := h.rejected_of_not_keep c (List.mem_append_left back hc) hkeep
    rw [List.map_append] at hmem
    refine (List.mem_append.1 hmem).resolve_right fun hmem => ?_
    exact List.disjoint_of_nodup_append hnodup hc (hrejected hmem)
  whole hpolicy x hx y hy :=
    h.whole hpolicy x (List.mem_append_left rejected hx) y (List.mem_append_left rejected hy)

/-- What holds of the candidates behind, if those in front are others. -/
theorem behind (h : Expendable policy keep (fore ++ back) (gone ++ rejected))
    (hnodup : (fore ++ back).Nodup) (hgone : gone.map RejectedFix.candidate ⊆ fore) :
    Expendable policy keep back rejected where
  rejected_of_not_keep c hc hkeep := by
    have hmem := h.rejected_of_not_keep c (List.mem_append_right fore hc) hkeep
    rw [List.map_append] at hmem
    refine (List.mem_append.1 hmem).resolve_left fun hmem => ?_
    exact List.disjoint_of_nodup_append hnodup (hgone hmem) hc
  whole hpolicy x hx y hy :=
    h.whole hpolicy x (List.mem_append_right gone hx) y (List.mem_append_right gone hy)

end Expendable

/-! ## The insertions at one point -/

theorem rejected_settle_subset (hfirst : first ∈ group) :
    (settle policy first group).rejected.map RejectedFix.candidate ⊆ group := by
  rw [candidate_rejected_settle hfirst]
  exact List.filter_subset_self group

/-- Rivals of which none is accepted are kept together. -/
theorem keep_eq_of_rivals (hfirst : first ∈ group)
    (hpoint : ∀ d ∈ group, insertsAt first.fix.span.start d)
    (h : Expendable .rejectAll keep group (settle .rejectAll first group).rejected)
    (hrivals : ¬ group.all fun d => d.fix.origin == first.fix.origin) :
    ∀ d ∈ group, keep d.index = keep first.index := by
  have hrejected : ∀ d ∈ group, ∃ x ∈ (settle .rejectAll first group).rejected,
      x.candidate = d := by
    intro d hd
    rw [← List.mem_map, candidate_rejected_settle hfirst, List.mem_filter]
    exact ⟨hd, by simpa [keeps] using hrivals⟩
  intro d hd
  obtain ⟨x, hx, rfl⟩ := hrejected d hd
  obtain ⟨y, hy, rfl⟩ := hrejected first hfirst
  obtain ⟨hxins, hxstart⟩ := insertsAt_iff.1 (hpoint _ hd)
  obtain ⟨hyins, -⟩ := insertsAt_iff.1 (hpoint _ hfirst)
  exact h.whole rfl x hx y hy hxins hyins hxstart

/-- If the first one is kept, those kept get the verdicts they had. -/
theorem settle_filter (hfirst : first ∈ group)
    (hpoint : ∀ d ∈ group, insertsAt first.fix.span.start d)
    (h : Expendable policy keep group (settle policy first group).rejected)
    (hkeep : keep first.index) :
    settle policy first (group.filter fun d => keep d.index) =
      (settle policy first group).kept keep := by
  cases policy with
  | firstSubmitted =>
    have hsame : ∀ d ∈ group.filter fun d => d.fix.origin == first.fix.origin, keep d.index := by
      intro d hd
      obtain ⟨hd, horigin⟩ := List.mem_filter.1 hd
      refine h.keep_of_notMem hd fun hmem => ?_
      rw [candidate_rejected_settle hfirst, List.mem_filter] at hmem
      simp [keeps, horigin] at hmem
    rw [settle_firstSubmitted, settle_firstSubmitted, kept, List.filter_comm,
      List.filter_eq_self.2 hsame, List.filter_comm, List.filter_map]
    rfl
  | rejectAll =>
    -- in either case all of the group is kept
    by_cases hall : group.all fun d => d.fix.origin == first.fix.origin
    · rw [settle_of_all hall] at h ⊢
      have hgroup : ∀ d ∈ group, keep d.index := fun d hd =>
        h.keep_of_notMem hd List.not_mem_nil
      rw [List.filter_eq_self.2 hgroup, settle_of_all hall]
      rfl
    · have hgroup : ∀ d ∈ group, keep d.index := fun d hd =>
        (keep_eq_of_rivals hfirst hpoint h hall d hd).trans hkeep
      have hrejected : ∀ x ∈ (settle .rejectAll first group).rejected, keep x.index :=
        fun x hx => hgroup x.candidate (rejected_settle_subset hfirst (List.mem_map_of_mem hx))
      rw [List.filter_eq_self.2 hgroup, kept, List.filter_eq_self.2 hrejected]

/-- If the first one is not kept, none of them is, and none was accepted. -/
theorem settle_of_not_keep (hfirst : first ∈ group)
    (hpoint : ∀ d ∈ group, insertsAt first.fix.span.start d)
    (h : Expendable policy keep group (settle policy first group).rejected)
    (hkeep : ¬ keep first.index) :
    (group.filter fun d => keep d.index) = [] ∧
      (settle policy first group).kept keep = ⟨[], []⟩ := by
  -- what is accepted is kept, and so would the first one be
  have hrejected := h.rejected_of_not_keep first hfirst hkeep
  rw [candidate_rejected_settle hfirst, List.mem_filter] at hrejected
  cases policy with
  | firstSubmitted => simp [keeps] at hrejected
  | rejectAll =>
    have hrivals : ¬ group.all fun d => d.fix.origin == first.fix.origin := by
      simpa [keeps] using hrejected.2
    have hgroup : ∀ d ∈ group, ¬ keep d.index := fun d hd =>
      keep_eq_of_rivals hfirst hpoint h hrivals d hd ▸ hkeep
    have hnone : ∀ x ∈ (settle .rejectAll first group).rejected, ¬ keep x.index :=
      fun x hx => hgroup x.candidate (rejected_settle_subset hfirst (List.mem_map_of_mem hx))
    refine ⟨List.filter_eq_nil_iff.2 hgroup, ?_⟩
    rw [kept, List.filter_eq_nil_iff.2 hnone, settle_rejectAll hrivals]

/-! ## The sweep -/

/-- Taking some candidates out leaves each of the others in the run or behind it. -/
theorem run_behind_filter {p : Candidate P → Bool} (hc : c.fix.isInsertion)
    (hsorted : (c :: rest).Pairwise fun a b => a.fix.span.Precedes b.fix.span) :
    run c (rest.filter p) = c :: (rest.takeWhile (insertsAt c.fix.span.start)).filter p ∧
      behind c (rest.filter p) = (behind c rest).filter p := by
  have hrun : ∀ d ∈ (rest.takeWhile (insertsAt c.fix.span.start)).filter p,
      insertsAt c.fix.span.start d := fun d hd =>
    List.all_eq_true.1 List.all_takeWhile d (List.mem_of_mem_filter hd)
  have hbehind : ∀ d ∈ (behind c rest).filter p, ¬ insertsAt c.fix.span.start d := fun d hd =>
    not_insertsAt_of_mem_behind hc hsorted (List.mem_of_mem_filter hd)
  obtain ⟨htake, hdrop⟩ := takeWhile_dropWhile_of_forall_not hbehind
  have hsplit : rest.filter p =
      (rest.takeWhile (insertsAt c.fix.span.start)).filter p ++ (behind c rest).filter p := by
    rw [← List.filter_append, behind, List.takeWhile_append_dropWhile]
  constructor
  · rw [run, hsplit, List.takeWhile_append_of_pos hrun, htake, List.append_nil]
  · rw [behind, hsplit, List.dropWhile_append_of_pos hrun, hdrop]

theorem kept_append (a b : Resolution P) : (append a b).kept keep =
    append (a.kept keep) (b.kept keep) := by
  simp [append, kept]

/-- The sweep over the candidates that are kept, if it can do without the others. -/
theorem sweep_filter (hready : Ready last cs) (hnodup : cs.Nodup)
    (h : Expendable policy keep cs (sweep policy last cs).rejected) :
    sweep policy last (cs.filter fun d => keep d.index) = (sweep policy last cs).kept keep := by
  induction last, cs using sweep_induction policy with
  | nil last =>
    rw [List.filter_nil, sweep_nil]
    rfl
  | claimed last c rest claimant hcl ih =>
    rw [sweep_of_claimant hcl] at h ⊢
    replace h : Expendable policy keep ([c] ++ rest)
      ([c.blame claimant] ++ (sweep policy last rest).rejected) := h
    have hrest := ih hready.skip hnodup.of_cons (h.behind hnodup (List.Subset.refl _))
    rw [List.filter_cons, kept_append]
    split
    · next hkeep =>
      have hblame : kept keep ⟨[], [c.blame claimant]⟩ = ⟨[], [c.blame claimant]⟩ := by
        simp [kept, Candidate.blame, hkeep]
      rw [sweep_of_claimant hcl, hrest, hblame]
    · next hkeep =>
      have hblame : kept keep ⟨[], [c.blame claimant]⟩ = ⟨[], []⟩ := by
        simp [kept, Candidate.blame, hkeep]
      rw [hrest, hblame]
      rfl
  | insertion last c rest hcl hc ih =>
    rw [sweep_of_insertion hcl hc] at h ⊢
    rw [← run_append_behind c rest] at h hnodup
    have hgroup := h.front hnodup rejected_sublist.subset
    have hrest := ih hready.settled hnodup.of_append_right
      (h.behind hnodup (rejected_settle_subset (self_mem_run c rest)))
    have hpoint : ∀ d ∈ run c rest, insertsAt c.fix.span.start d :=
      fun d hd => insertsAt_of_mem_run hc hd
    rw [kept_append]
    by_cases hkeep : keep c.index
    · obtain ⟨hrun, hbehind⟩ := run_behind_filter (p := fun d => keep d.index) hc hready.sorted
      have hfilter : run c (rest.filter fun d => keep d.index) =
          (run c rest).filter fun d => keep d.index := by
        rw [hrun, run, List.filter_cons, if_pos hkeep]
      rw [List.filter_cons, if_pos hkeep, sweep_of_insertion hcl hc, hfilter, hbehind,
        settle_filter (self_mem_run c rest) hpoint hgroup hkeep]
      exact congrArg _ hrest
    · obtain ⟨hfilter, hsettle⟩ := settle_of_not_keep (self_mem_run c rest) hpoint hgroup hkeep
      have haccepted : (settle policy c (run c rest)).accepted = [] :=
        congrArg Resolution.accepted hsettle
      rw [← run_append_behind c rest, List.filter_append, hfilter, hsettle]
      rw [haccepted] at hrest ⊢
      exact hrest
  | replacement last c rest hcl hc ih =>
    rw [sweep_of_replacement hcl hc] at h ⊢
    replace h : Expendable policy keep ([c] ++ rest)
      ([] ++ (sweep policy (some c.fix) rest).rejected) := h
    have hkeep : keep c.index := by
      refine (h.front hnodup rejected_sublist.subset).keep_of_notMem ?_ List.not_mem_nil
      exact List.mem_singleton_self c
    have hrest := ih hready.accept hnodup.of_cons (h.behind hnodup (List.nil_subset _))
    rw [List.filter_cons, if_pos hkeep, sweep_of_replacement hcl hc, hrest, kept_append]
    rfl

/-- Candidates whose fixes can all be applied are all accepted. -/
theorem sweep_of_consistent (hready : Ready last cs)
    (h : Consistent (last.toList ++ cs.map Candidate.fix)) :
    sweep policy last cs = ⟨cs.map Candidate.fix, []⟩ := by
  induction last, cs using sweep_induction policy with
  | nil last => exact sweep_nil
  | claimed last c rest claimant hcl ih =>
    obtain ⟨hlast, -⟩ := Option.filter_eq_some_iff.1 hcl
    have hle : frontier last ≤ c.fix.span.start := by
      rw [hlast] at h ⊢
      exact (List.pairwise_cons.1 h.ordered).1 c.fix List.mem_cons_self
    rw [hready.claimant?_eq_none_iff.2 hle] at hcl
    cases hcl
  | insertion last c rest hcl hc ih =>
    rw [← run_append_behind c rest, List.map_append, ← List.append_assoc] at h
    have hall : (run c rest).all fun d => d.fix.origin == c.fix.origin := by
      have hmem : ∀ d ∈ run c rest, d.fix ∈ last.toList ++ (run c rest).map Candidate.fix ++
          (behind c rest).map Candidate.fix := fun d hd =>
        List.mem_append_left _ (List.mem_append_right _ (List.mem_map_of_mem hd))
      refine List.all_eq_true.2 fun d hd => beq_iff_eq.2 (Decidable.by_contra fun hne => ?_)
      obtain ⟨hins, hstart⟩ := insertsAt_iff.1 (insertsAt_of_mem_run hc hd)
      exact h.agreed _ (hmem d hd) _ (hmem c (self_mem_run c rest)) ⟨hins, hc, hstart, hne⟩
    have hlast := getLast?_or_sublist last ((run c rest).map Candidate.fix)
    have hrest := ih hready.settled
    rw [settle_of_all hall] at hrest
    rw [sweep_of_insertion hcl hc, settle_of_all hall, hrest (h.sublist (hlast.append_right _)),
      ← run_append_behind c rest, List.map_append]
    rfl
  | replacement last c rest hcl hc ih =>
    rw [sweep_of_replacement hcl hc, ih hready.accept (h.sublist (List.sublist_append_right _ _))]
    rfl

end Resolution

end Emend

import Emend.Proofs.Resolution.Places
import Emend.Proofs.Resolution.Soundness

/-!
# Accepted and rejected

Of the candidates that the sweep goes over each one is accepted or rejected, and none twice
(`sweep_perm`). The verdicts name the places of the rejected ones only, but that says it all: the
fixes accepted are those of the candidates at the other places, in the order in which the sweep
comes to them (`accepted_sweep`). No span need be valid for that.

So a batch is resolved by taking the places of the rejected fixes out of its one arrangement in the
order of the spans (`resolve_partition`).
-/

namespace Emend

namespace Resolution

variable {P : Type} {policy : SamePointPolicy} {last : Option (Fix P)} {first : Candidate P}
  {group front back cs : List (Candidate P)} {gone rejected rejected' : List (RejectedFix P)}

/-! ## Nothing is lost -/

theorem fix_comp_candidate : Candidate.fix ∘ RejectedFix.candidate = RejectedFix.fix (P := P) := rfl

theorem settle_perm (policy : SamePointPolicy) (hfirst : first ∈ group) :
    ((settle policy first group).accepted ++
      (settle policy first group).rejected.map RejectedFix.fix).Perm (group.map Candidate.fix) := by
  rw [← fix_comp_candidate, ← List.map_map, candidate_rejected_settle hfirst, accepted_settle,
    ← List.map_append]
  exact (List.filter_append_perm _ group).map Candidate.fix

theorem sweep_perm : ((sweep policy last cs).accepted ++
    (sweep policy last cs).rejected.map RejectedFix.fix).Perm (cs.map Candidate.fix) := by
  induction last, cs using sweep_induction policy with
  | nil last =>
    rw [sweep_nil]
    exact .refl _
  | claimed last c rest claimant hcl ih =>
    rw [sweep_of_claimant hcl]
    exact List.perm_middle.trans (ih.cons c.fix)
  | insertion last c rest hcl hc ih =>
    rw [sweep_of_insertion hcl hc, ← run_append_behind c rest, List.map_append, accepted_append,
      rejected_append, List.map_append]
    refine List.Perm.trans ?_ ((settle_perm policy (self_mem_run c rest)).append ih)
    rw [List.append_assoc, List.append_assoc, List.perm_append_left_iff]
    exact List.perm_append_comm_assoc _ _ _
  | replacement last c rest hcl hc ih =>
    rw [sweep_of_replacement hcl hc]
    exact ih.cons c.fix

/-! ## What is not rejected -/

/-- The fixes of the candidates at whose places nothing is rejected. -/
def survivors (cs : List (Candidate P)) (rejected : List (RejectedFix P)) : List (Fix P) :=
  (cs.filter fun c => c.index ∉ rejected.map RejectedFix.index).map Candidate.fix

theorem survivors_of_perm (h : rejected.Perm rejected') :
    survivors cs rejected = survivors cs rejected' := by
  unfold survivors
  congr 2
  funext c
  simp only [(h.map RejectedFix.index).mem_iff]

theorem index_mem_of_subset (h : rejected.map RejectedFix.candidate ⊆ cs) {index : Nat}
    (hindex : index ∈ rejected.map RejectedFix.index) : index ∈ cs.map Candidate.index := by
  obtain ⟨r, hr, rfl⟩ := List.mem_map.1 hindex
  exact List.mem_map_of_mem (h (List.mem_map_of_mem hr))

/-- What is rejected on one side has its place there. -/
theorem survivors_append (hnodup : ((front ++ back).map Candidate.index).Nodup)
    (hgone : gone.map RejectedFix.candidate ⊆ front)
    (hrejected : rejected.map RejectedFix.candidate ⊆ back) :
    survivors (front ++ back) (gone ++ rejected) =
      survivors front gone ++ survivors back rejected := by
  rw [List.map_append] at hnodup
  have hdisjoint := List.disjoint_of_nodup_append hnodup
  unfold survivors
  rw [List.filter_append, List.map_append]
  congr 2
  · refine List.filter_congr fun c hc => ?_
    have hother : c.index ∉ rejected.map RejectedFix.index := fun hmem =>
      hdisjoint (List.mem_map_of_mem hc) (index_mem_of_subset hrejected hmem)
    simp [hother]
  · refine List.filter_congr fun c hc => ?_
    have hother : c.index ∉ gone.map RejectedFix.index := fun hmem =>
      hdisjoint (index_mem_of_subset hgone hmem) (List.mem_map_of_mem hc)
    simp [hother]

/-- The insertions accepted at one point are those that are not rejected. -/
theorem survivors_settle (hfirst : first ∈ group) (hnodup : (group.map Candidate.index).Nodup) :
    survivors group (settle policy first group).rejected =
      (settle policy first group).accepted := by
  have hindex : (settle policy first group).rejected.map RejectedFix.index =
      (group.filter fun c => !keeps policy first group c).map Candidate.index := by
    rw [← candidate_rejected_settle hfirst, List.map_map]
    rfl
  rw [survivors, hindex, accepted_settle]
  congr 1
  refine List.filter_congr fun c hc => ?_
  have hmem : c.index ∈ (group.filter fun c => !keeps policy first group c).map Candidate.index ↔
      ¬ keeps policy first group c := by
    constructor
    · intro hmem
      obtain ⟨d, hd, heq⟩ := List.mem_map.1 hmem
      obtain ⟨hd, hkeeps⟩ := List.mem_filter.1 hd
      obtain rfl := List.inj_on_of_nodup_map hnodup hd hc heq
      simpa using hkeeps
    · intro hkeeps
      exact List.mem_map_of_mem (List.mem_filter.2 ⟨hc, by simpa using hkeeps⟩)
  simp [hmem]

/-- The fixes accepted are those of the candidates that are not rejected, in the order of these. -/
theorem accepted_sweep (hnodup : (cs.map Candidate.index).Nodup) :
    (sweep policy last cs).accepted = survivors cs (sweep policy last cs).rejected := by
  induction last, cs using sweep_induction policy with
  | nil last => simp [survivors]
  | claimed last c rest claimant hcl ih =>
    have hrest : (sweep policy last rest).rejected.map RejectedFix.candidate ⊆ rest :=
      rejected_sublist.subset
    have hparts : survivors ([c] ++ rest)
        ([c.blame claimant] ++ (sweep policy last rest).rejected) =
          survivors [c] [c.blame claimant] ++ survivors rest (sweep policy last rest).rejected :=
      survivors_append hnodup (List.Subset.refl _) hrest
    rw [sweep_of_claimant hcl]
    refine (ih (List.nodup_cons.1 hnodup).2).trans (Eq.trans ?_ hparts.symm)
    simp [survivors, Candidate.blame]
  | insertion last c rest hcl hc ih =>
    rw [← run_append_behind c rest] at hnodup
    have hgone : (settle policy c (run c rest)).rejected.map RejectedFix.candidate ⊆
        run c rest := by
      rw [candidate_rejected_settle (self_mem_run c rest)]
      exact List.filter_subset_self _
    have hrest : (sweep policy ((settle policy c (run c rest)).accepted.getLast?.or last)
        (behind c rest)).rejected.map RejectedFix.candidate ⊆ behind c rest :=
      rejected_sublist.subset
    have hparts := survivors_append hnodup hgone hrest
    rw [List.map_append] at hnodup
    rw [sweep_of_insertion hcl hc, ← run_append_behind c rest]
    refine Eq.trans ?_ hparts.symm
    rw [survivors_settle (self_mem_run c rest) hnodup.of_append_left,
      ← ih hnodup.of_append_right]
    rfl
  | replacement last c rest hcl hc ih =>
    have hrest : (sweep policy (some c.fix) rest).rejected.map RejectedFix.candidate ⊆ rest :=
      rejected_sublist.subset
    have hparts : survivors ([c] ++ rest) ([] ++ (sweep policy (some c.fix) rest).rejected) =
        survivors [c] [] ++ survivors rest (sweep policy (some c.fix) rest).rejected :=
      survivors_append hnodup (List.nil_subset _) hrest
    rw [sweep_of_replacement hcl hc]
    refine Eq.trans ?_ hparts.symm
    rw [← ih (List.nodup_cons.1 hnodup).2]
    rfl

end Resolution

/-! ## Batches -/

section
variable {P : Type} (fixes : List (Fix P)) (policy : SamePointPolicy)

theorem nodup_index_stableSort_enumerate :
    ((stableSort Candidate.le (Candidate.enumerate fixes)).map Candidate.index).Nodup :=
  ((stableSort_perm _ _).map Candidate.index).nodup_iff.2 (Candidate.nodup_index_enumerate fixes)

theorem pairwise_index_rejected_resolve :
    (resolve fixes policy).rejected.Pairwise fun a b => a.index < b.index := by
  have hsub : ((Resolution.sweep policy none
      (stableSort Candidate.le (Candidate.enumerate fixes))).rejected.map
        RejectedFix.candidate).Sublist _ := Resolution.rejected_sublist
  have hnodup := (nodup_index_stableSort_enumerate fixes).sublist (hsub.map Candidate.index)
  rw [List.map_map] at hnodup
  exact pairwise_inOrder_of_nodup hnodup

theorem accepted_resolve : (resolve fixes policy).accepted =
    Resolution.survivors (stableSort Candidate.le (Candidate.enumerate fixes))
      (resolve fixes policy).rejected := by
  refine (Resolution.accepted_sweep (nodup_index_stableSort_enumerate fixes)).trans ?_
  exact Resolution.survivors_of_perm (stableSort_perm _ _).symm

theorem resolve_perm : ((resolve fixes policy).accepted ++
    (resolve fixes policy).rejected.map RejectedFix.fix).Perm fixes := by
  have hsorted := (stableSort_perm Candidate.le (Candidate.enumerate fixes)).map Candidate.fix
  rw [Candidate.map_fix_enumerate] at hsorted
  refine List.Perm.trans (List.Perm.append_left _ ?_) (Resolution.sweep_perm.trans hsorted)
  exact (stableSort_perm _ _).map RejectedFix.fix

/-- Whatever the spans, a batch is parted in two. The rejected fixes are named by their places, in
order. The accepted ones are all the others, in the one arrangement of the batch by spans in which
those with equal spans stand as they were submitted. -/
theorem resolve_partition :
    (resolve fixes policy).rejected.Pairwise (fun a b => a.index < b.index) ∧
    (∀ r ∈ (resolve fixes policy).rejected, fixes[r.index]? = some r.fix) ∧
    (∃ sorted, (∀ cs, Candidate.Arranged fixes cs ↔ cs = sorted) ∧
      (resolve fixes policy).accepted =
        Resolution.survivors sorted (resolve fixes policy).rejected) ∧
    ((resolve fixes policy).accepted ++
      (resolve fixes policy).rejected.map RejectedFix.fix).Perm fixes := by
  refine ⟨pairwise_index_rejected_resolve fixes policy, fun r hr => ?_,
    ⟨_, fun cs => Candidate.arranged_iff, accepted_resolve fixes policy⟩,
    resolve_perm fixes policy⟩
  exact (justified_resolve fixes policy hr).submitted

end

/-- An inverted span, two rivals that are both rejected, and a replacement from their point. -/
example :
    let fixes : List (Fix String) :=
      [⟨⟨5, 2⟩, "p", "a"⟩, .insert 3 "q" "a", ⟨⟨3, 6⟩, "r", "b"⟩, .insert 3 "s" "b"]
    (resolve fixes .rejectAll).accepted = [⟨⟨3, 6⟩, "r", "b"⟩, ⟨⟨5, 2⟩, "p", "a"⟩] := by
  cbv

end Emend

import Emend.Proofs.Resolution.Sweep

/-!
# What a resolution promises

The fixes accepted are consistent: none begins before the one ahead of it has stopped, and no two
are rival insertions at one point. Each fix rejected names one that it is at odds with, and where
the first origin at a point is accepted that fix is itself accepted, so that nothing more could
have been (`resolve_consistent_justified_maximal`).

Both are proved along the sweep: what it accepts begins no earlier than the last fix before it
stopped (`frontier_le_of_mem_accepted`), and what it names was accepted by then or stands in the
same run of insertions (`blamed_of_mem_rejected`).
-/

namespace Emend

variable {P : Type}

/-- Two insertions at one point that come from different origins. -/
def Fix.Rival (f g : Fix P) : Prop :=
  f.isInsertion ∧ g.isInsertion ∧ f.span.start = g.span.start ∧ f.origin ≠ g.origin

/-- Fixes that can all be applied, in this order. -/
structure Consistent (fixes : List (Fix P)) : Prop where
  ordered : fixes.Pairwise fun f g => f.span.stop ≤ g.span.start
  agreed : ∀ f ∈ fixes, ∀ g ∈ fixes, ¬ f.Rival g

theorem Consistent.sublist {fixes fixes' : List (Fix P)} (h : Consistent fixes')
    (hsub : fixes.Sublist fixes') : Consistent fixes where
  ordered := h.ordered.sublist hsub
  agreed f hf g hg := h.agreed f (hsub.subset hf) g (hsub.subset hg)

theorem Fix.not_overlaps_of_isInsertion {f g : Fix P} (hf : f.isInsertion) (hg : g.isInsertion) :
    ¬ f.span.overlaps g.span := by
  rw [isInsertion_iff] at hf hg
  simp [Span.overlaps, Span.isEmpty, hf, hg]

/-- Of fixes that can all be applied no insertion lies inside another fix. -/
theorem Consistent.not_overlaps {fixes : List (Fix P)} {f g : Fix P} (h : Consistent fixes)
    (hf : f ∈ fixes) (hg : g ∈ fixes) (hins : f.isInsertion) : ¬ f.span.overlaps g.span := by
  intro hover
  have hinside : f.span.start < g.span.stop ∧ g.span.start < f.span.stop := by
    simp only [Span.overlaps, Bool.and_eq_true, decide_eq_true_eq] at hover
    exact hover.2
  obtain ⟨i, hi, rfl⟩ := List.getElem_of_mem hf
  obtain ⟨j, hj, rfl⟩ := List.getElem_of_mem hg
  have hordered := List.pairwise_iff_getElem.1 h.ordered
  rcases Nat.lt_trichotomy i j with hij | rfl | hij
  · have := hordered i j hi hj hij
    omega
  · exact Fix.not_overlaps_of_isInsertion hins hins hover
  · have := hordered j i hj hi hij
    omega

/-- The fix is rejected for one that it is at odds with: an accepted one that it overlaps, or a
rival insertion, which is accepted itself where the first origin at a point is. -/
def RejectedFix.Blamed (policy : SamePointPolicy) (fixes accepted : List (Fix P))
    (r : RejectedFix P) : Prop :=
  ∃ culprit, r.reason = .conflict r.fix.span culprit.origin culprit.span ∧
    ((r.fix.span.overlaps culprit.span ∧ culprit ∈ accepted) ∨
      (r.fix.Rival culprit ∧
        culprit ∈ match policy with
          | .firstSubmitted => accepted
          | .rejectAll => fixes))

/-- A rejection of the fix that was submitted at its place, for one that it is at odds with. -/
structure RejectedFix.Justified (policy : SamePointPolicy) (fixes accepted : List (Fix P))
    (r : RejectedFix P) : Prop where
  submitted : fixes[r.index]? = some r.fix
  blamed : r.Blamed policy fixes accepted

theorem RejectedFix.Blamed.mono {policy : SamePointPolicy}
    {fixes fixes' accepted accepted' : List (Fix P)} {r : RejectedFix P}
    (h : r.Blamed policy fixes accepted) (hfixes : fixes ⊆ fixes')
    (haccepted : accepted ⊆ accepted') : r.Blamed policy fixes' accepted' := by
  obtain ⟨culprit, hreason, ⟨hover, hmem⟩ | ⟨hrival, hmem⟩⟩ := h
  · exact ⟨culprit, hreason, .inl ⟨hover, haccepted hmem⟩⟩
  · refine ⟨culprit, hreason, .inr ⟨hrival, ?_⟩⟩
    cases policy with
    | firstSubmitted => exact haccepted hmem
    | rejectAll => exact hfixes hmem

namespace Resolution

variable {policy : SamePointPolicy} {last : Option (Fix P)} {c : Candidate P}
  {rest cs : List (Candidate P)}

/-- The fixes accepted are those of some of the candidates, in the order of these. -/
theorem accepted_sublist : (sweep policy last cs).accepted.Sublist (cs.map Candidate.fix) := by
  induction last, cs using sweep_induction policy with
  | nil last =>
    rw [sweep_nil]
    exact List.nil_sublist _
  | claimed last c rest claimant hcl ih =>
    rw [sweep_of_claimant hcl]
    exact ih.cons c.fix
  | insertion last c rest hcl hc ih =>
    rw [sweep_of_insertion hcl hc, ← run_append_behind c rest, List.map_append]
    exact accepted_settle_sublist.append ih
  | replacement last c rest hcl hc ih =>
    rw [sweep_of_replacement hcl hc]
    exact ih.cons_cons c.fix

theorem exists_of_mem_accepted {fix : Fix P} (h : fix ∈ (sweep policy last cs).accepted) :
    ∃ d ∈ cs, d.fix = fix :=
  List.mem_map.1 (accepted_sublist.subset h)

theorem frontier_le_of_mem_accepted (hready : Ready last cs) {fix : Fix P}
    (h : fix ∈ (sweep policy last cs).accepted) : frontier last ≤ fix.span.start := by
  induction last, cs using sweep_induction policy with
  | nil last =>
    rw [sweep_nil] at h
    cases h
  | claimed last c rest claimant hcl ih =>
    rw [sweep_of_claimant hcl] at h
    exact ih hready.skip h
  | insertion last c rest hcl hc ih =>
    have hle := hready.claimant?_eq_none_iff.1 hcl
    rw [sweep_of_insertion hcl hc] at h
    rcases List.mem_append.1 h with h | h
    · rw [(accepted_settle_run hc h).2]
      exact hle
    · exact Nat.le_trans (frontier_le_settled hc hle) (ih hready.settled h)
  | replacement last c rest hcl hc ih =>
    have hle := hready.claimant?_eq_none_iff.1 hcl
    rw [sweep_of_replacement hcl hc] at h
    rcases List.mem_cons.1 h with rfl | h
    · exact hle
    · have hrest := ih hready.accept h
      have hvalid := hready.valid c List.mem_cons_self
      simp only [frontier, Option.elim_some] at hrest
      omega

theorem ordered_sweep (hready : Ready last cs) :
    (sweep policy last cs).accepted.Pairwise fun f g => f.span.stop ≤ g.span.start := by
  induction last, cs using sweep_induction policy with
  | nil last =>
    rw [sweep_nil]
    exact List.Pairwise.nil
  | claimed last c rest claimant hcl ih =>
    rw [sweep_of_claimant hcl]
    exact ih hready.skip
  | insertion last c rest hcl hc ih =>
    rw [sweep_of_insertion hcl hc]
    refine List.pairwise_append.2 ⟨?_, ih hready.settled, ?_⟩
    · refine List.pairwise_of_forall_mem_list fun f hf g hg => ?_
      obtain ⟨hf, hfstart⟩ := accepted_settle_run hc hf
      obtain ⟨-, hgstart⟩ := accepted_settle_run hc hg
      rw [Fix.isInsertion_iff] at hf
      omega
    · intro f hf g hg
      have hle := frontier_le_of_mem_accepted hready.settled hg
      rw [frontier_settled hc hf] at hle
      obtain ⟨hf, hfstart⟩ := accepted_settle_run hc hf
      rw [Fix.isInsertion_iff] at hf
      omega
  | replacement last c rest hcl hc ih =>
    rw [sweep_of_replacement hcl hc]
    refine List.pairwise_cons.2 ⟨fun g hg => ?_, ih hready.accept⟩
    exact frontier_le_of_mem_accepted hready.accept hg

theorem agreed_sweep (hready : Ready last cs) :
    ∀ f ∈ (sweep policy last cs).accepted, ∀ g ∈ (sweep policy last cs).accepted,
      ¬ f.Rival g := by
  induction last, cs using sweep_induction policy with
  | nil last =>
    rw [sweep_nil]
    exact nofun
  | claimed last c rest claimant hcl ih =>
    rw [sweep_of_claimant hcl]
    exact ih hready.skip
  | insertion last c rest hcl hc ih =>
    rw [sweep_of_insertion hcl hc]
    -- behind the run nothing more is inserted at its point
    have hbehind : ∀ g ∈ (sweep policy
        ((settle policy c (run c rest)).accepted.getLast?.or last) (behind c rest)).accepted,
        g.isInsertion → g.span.start ≠ c.fix.span.start := by
      intro g hg hins hstart
      obtain ⟨d, hd, rfl⟩ := exists_of_mem_accepted hg
      exact not_insertsAt_of_mem_behind hc hready.sorted hd (insertsAt_iff.2 ⟨hins, hstart⟩)
    rintro f hf g hg ⟨hfins, hgins, hstart, horigin⟩
    rcases List.mem_append.1 hf with hf | hf <;> rcases List.mem_append.1 hg with hg | hg
    · exact horigin ((origin_eq_of_mem_accepted_settle hf).trans
        (origin_eq_of_mem_accepted_settle hg).symm)
    · exact hbehind g hg hgins (hstart.symm.trans (accepted_settle_run hc hf).2)
    · exact hbehind f hf hfins (hstart.trans (accepted_settle_run hc hg).2)
    · exact ih hready.settled f hf g hg ⟨hfins, hgins, hstart, horigin⟩
  | replacement last c rest hcl hc ih =>
    rw [sweep_of_replacement hcl hc]
    rintro f hf g hg ⟨hfins, hgins, hrival⟩
    rcases List.mem_cons.1 hf with rfl | hf
    · exact hc hfins
    · rcases List.mem_cons.1 hg with rfl | hg
      · exact hc hgins
      · exact ih hready.accept f hf g hg ⟨hfins, hgins, hrival⟩

/-- The candidates rejected are some of the candidates, in the order of these. -/
theorem rejected_sublist :
    ((sweep policy last cs).rejected.map RejectedFix.candidate).Sublist cs := by
  induction last, cs using sweep_induction policy with
  | nil last =>
    rw [sweep_nil]
    exact List.nil_sublist _
  | claimed last c rest claimant hcl ih =>
    rw [sweep_of_claimant hcl]
    exact ih.cons_cons c
  | insertion last c rest hcl hc ih =>
    rw [sweep_of_insertion hcl hc, rejected_append, List.map_append,
      candidate_rejected_settle (self_mem_run c rest)]
    refine List.Sublist.trans (List.filter_sublist.append ih) ?_
    simp only [run_append_behind, List.Sublist.refl]
  | replacement last c rest hcl hc ih =>
    rw [sweep_of_replacement hcl hc]
    exact ih.cons c

theorem candidate_mem_of_mem_rejected {r : RejectedFix P}
    (h : r ∈ (sweep policy last cs).rejected) : r.candidate ∈ cs :=
  rejected_sublist.subset (List.mem_map_of_mem h)

/-- Each candidate is rejected for one that has been accepted, the last fix before the sweep
included, or for a rival among the candidates. -/
theorem blamed_of_mem_rejected {r : RejectedFix P} (h : r ∈ (sweep policy last cs).rejected) :
    r.Blamed policy (cs.map Candidate.fix)
      (last.toList ++ (sweep policy last cs).accepted) := by
  induction last, cs using sweep_induction policy with
  | nil last =>
    rw [sweep_nil] at h
    cases h
  | claimed last c rest claimant hcl ih =>
    rw [sweep_of_claimant hcl] at h ⊢
    rcases List.mem_cons.1 h with rfl | h
    · obtain ⟨hlast, hover⟩ := Option.filter_eq_some_iff.1 hcl
      exact ⟨claimant, rfl, .inl ⟨hover, List.mem_append_left _ (Option.mem_toList.2 hlast)⟩⟩
    · exact (ih h).mono (List.subset_cons_self _ _) (List.Subset.refl _)
  | insertion last c rest hcl hc ih =>
    rw [sweep_of_insertion hcl hc] at h ⊢
    rw [← run_append_behind c rest, List.map_append]
    rcases List.mem_append.1 h with h | h
    · obtain ⟨d, hd, other, hother, rfl, horigin, hfirst⟩ :=
        exists_of_mem_rejected_settle (self_mem_run c rest) h
      obtain ⟨hins, hstart⟩ := insertsAt_iff.1 (insertsAt_of_mem_run hc hd)
      obtain ⟨hins', hstart'⟩ := insertsAt_iff.1 (insertsAt_of_mem_run hc hother)
      refine ⟨other.fix, rfl,
        .inr ⟨⟨hins, hins', hstart.trans hstart'.symm, horigin.symm⟩, ?_⟩⟩
      cases policy with
      | firstSubmitted => exact List.mem_append_right _ (List.mem_append_left _ (hfirst rfl))
      | rejectAll => exact List.mem_append_left _ (List.mem_map_of_mem hother)
    · refine (ih h).mono (List.subset_append_right _ _) ?_
      rw [accepted_append, ← List.append_assoc]
      exact ((getLast?_or_sublist last _).append_right _).subset
  | replacement last c rest hcl hc ih =>
    rw [sweep_of_replacement hcl hc] at h ⊢
    exact (ih h).mono (List.subset_cons_self _ _) (List.subset_append_right _ _)

theorem consistent_sweep (hready : Ready last cs) : Consistent (sweep policy last cs).accepted :=
  ⟨ordered_sweep hready, agreed_sweep hready⟩

end Resolution

/-- With a fix that it is at odds with, a fix cannot be applied, wherever it is put. -/
theorem not_consistent_of_culprit {fix culprit : Fix P} {fixes more : List (Fix P)}
    (hmem : culprit ∈ fixes) (h : fix.span.overlaps culprit.span ∨ fix.Rival culprit)
    (hperm : more.Perm (fix :: fixes)) : ¬ Consistent more := by
  rintro ⟨hordered, hagreed⟩
  rcases h with hover | hrival
  · -- in whatever order the two stand, one stops before the other starts
    have hapart : more.Pairwise fun f g =>
        f.span.stop ≤ g.span.start ∨ g.span.stop ≤ f.span.start := hordered.imp .inl
    rw [hperm.pairwise_iff Or.symm] at hapart
    have hpair := (List.pairwise_cons.1 hapart).1 culprit hmem
    simp only [Span.overlaps, Bool.and_eq_true, decide_eq_true_eq] at hover
    omega
  · exact hagreed fix (hperm.mem_iff.2 List.mem_cons_self) culprit
      (hperm.mem_iff.2 (List.mem_cons_of_mem fix hmem)) hrival

section
variable (fixes : List (Fix P)) (policy : SamePointPolicy)

theorem justified_resolve {r : RejectedFix P} (h : r ∈ (resolve fixes policy).rejected) :
    r.Justified policy fixes (resolve fixes policy).accepted := by
  have hr := mem_stableSort.1 h
  have hcandidate := mem_stableSort.1 (Resolution.candidate_mem_of_mem_rejected hr)
  refine ⟨Candidate.mem_enumerate_iff.1 hcandidate, ?_⟩
  refine (Resolution.blamed_of_mem_rejected hr).mono ?_ (List.Subset.refl _)
  intro f hf
  obtain ⟨d, hd, rfl⟩ := List.mem_map.1 hf
  exact Candidate.fix_mem_of_mem_enumerate (mem_stableSort.1 hd)

/-- If no span is inverted, the fixes accepted are consistent and each rejection is justified.
Where the first origin at a point is accepted, no rejected fix could be added. -/
theorem resolve_consistent_justified_maximal
    (hvalid : ∀ fix ∈ fixes, fix.span.start ≤ fix.span.stop) :
    Consistent (resolve fixes policy).accepted ∧
    (∀ r ∈ (resolve fixes policy).rejected,
      r.Justified policy fixes (resolve fixes policy).accepted) ∧
    (policy = .firstSubmitted → ∀ r ∈ (resolve fixes policy).rejected, ∀ more : List (Fix P),
      more.Perm (r.fix :: (resolve fixes policy).accepted) → ¬ Consistent more) := by
  refine ⟨?_, fun r hr => justified_resolve fixes policy hr, ?_⟩
  · apply Resolution.consistent_sweep
    apply Resolution.ready_stableSort
    intro c hc
    exact hvalid c.fix (Candidate.fix_mem_of_mem_enumerate hc)
  · rintro rfl r hr more hperm
    obtain ⟨-, culprit, -, ⟨hover, hmem⟩ | ⟨hrival, hmem⟩⟩ := justified_resolve fixes _ hr
    · exact not_consistent_of_culprit hmem (.inl hover) hperm
    · exact not_consistent_of_culprit hmem (.inr hrival) hperm

end

/-- A replacement with an insertion inside, and two insertions at its end that are rivals. -/
theorem resolve_consistent_justified_maximal_rivals :
    let fixes : List (Fix String) :=
      [.insert 5 "p" "a", .insert 3 "q" "b", .insert 5 "r" "b", ⟨⟨0, 5⟩, "s", "b"⟩]
    (∀ fix ∈ fixes, fix.span.start ≤ fix.span.stop) ∧
    (resolve fixes .firstSubmitted).rejected =
      [⟨1, .insert 3 "q" "b", .conflict ⟨3, 3⟩ "b" ⟨0, 5⟩⟩,
        ⟨2, .insert 5 "r" "b", .conflict ⟨5, 5⟩ "a" ⟨5, 5⟩⟩] ∧
    Consistent (resolve fixes .firstSubmitted).accepted ∧
    ¬ Consistent (.insert 3 "q" "b" :: (resolve fixes .firstSubmitted).accepted) ∧
    ¬ Consistent ((resolve fixes .firstSubmitted).accepted ++ [.insert 5 "r" "b"]) := by
  intro fixes
  have hvalid : ∀ fix ∈ fixes, fix.span.start ≤ fix.span.stop := by decide
  have hrejected : (resolve fixes .firstSubmitted).rejected =
      [⟨1, .insert 3 "q" "b", .conflict ⟨3, 3⟩ "b" ⟨0, 5⟩⟩,
        ⟨2, .insert 5 "r" "b", .conflict ⟨5, 5⟩ "a" ⟨5, 5⟩⟩] := by cbv
  obtain ⟨hconsistent, -, hmaximal⟩ :=
    resolve_consistent_justified_maximal fixes .firstSubmitted hvalid
  have hmaximal := hmaximal rfl
  rw [hrejected] at hmaximal
  refine ⟨hvalid, hrejected, hconsistent, ?_, ?_⟩
  · exact hmaximal _ List.mem_cons_self _ (.refl _)
  · exact hmaximal _ (List.mem_cons_of_mem _ List.mem_cons_self) _ List.perm_append_comm

end Emend

import Emend.Proofs.Resolution.Sweep

/-!
# Candidates on both sides of a seam

If no candidate in front reaches into what comes behind, and none is inserted at one point with one
behind (`Fix.Clears`), the sweep goes over those in front and those behind apart (`sweep_append`):
whichever fix was accepted last in front, it stops no later than any candidate behind starts, and
then it does not matter which one it was (`sweep_eq_sweep_none`).
-/

namespace Emend

variable {P : Type}

/-- The fix stops before the other one starts, and they are not inserted at one point. -/
structure Fix.Clears (f g : Fix P) : Prop where
  stop_le_start : f.span.stop ≤ g.span.start
  not_beside : f.isInsertion → g.isInsertion → f.span.start ≠ g.span.start

namespace Resolution

variable {policy : SamePointPolicy} {last : Option (Fix P)} {c : Candidate P}
  {rest cs front back : List (Candidate P)}

theorem append_assoc (a b d : Resolution P) : append (append a b) d = append a (append b d) := by
  simp [append]

theorem append_nil_left (v : Resolution P) : append ⟨[], []⟩ v = v := rfl

/-- A candidate that starts where the last fix stops or behind is claimed by nothing. -/
theorem claimant?_eq_none_of_le (h : frontier last ≤ c.fix.span.start) :
    claimant? last c = none := by
  cases last with
  | none => rfl
  | some fix =>
    have hover : ¬ c.fix.span.overlaps fix.span := by
      simp only [frontier, Option.elim_some] at h
      simp only [Span.overlaps, Bool.and_eq_true, decide_eq_true_eq]
      omega
    rw [claimant?, Option.filter_some, if_neg hover]

/-- Among candidates that all start where the last fix stops or behind, it does not matter which fix
that was. -/
theorem sweep_eq_sweep_none (h : ∀ d ∈ cs, frontier last ≤ d.fix.span.start) :
    sweep policy last cs = sweep policy none cs := by
  induction last, cs using sweep_induction policy with
  | nil last => rw [sweep_nil, sweep_nil]
  | claimed last c rest claimant hcl ih =>
    rw [claimant?_eq_none_of_le (h c List.mem_cons_self)] at hcl
    cases hcl
  | insertion last c rest hcl hc ih =>
    rw [sweep_of_insertion hcl hc, sweep_of_insertion rfl hc]
    congr 1
    -- Once one of the run is accepted, it is the last fix in either case.
    cases haccepted : (settle policy c (run c rest)).accepted.getLast? with
    | some fix => rfl
    | none =>
      rw [haccepted] at ih
      refine ih fun d hd => h d ?_
      rw [← run_append_behind c rest]
      exact List.mem_append_right _ hd
  | replacement last c rest hcl hc ih =>
    rw [sweep_of_replacement hcl hc, sweep_of_replacement rfl hc]

theorem takeWhile_dropWhile_append {α : Type} {p : α → Bool} {l l' : List α}
    (h : ∀ a ∈ l', ¬ p a) : (l ++ l').takeWhile p = l.takeWhile p ∧
      (l ++ l').dropWhile p = l.dropWhile p ++ l' := by
  induction l with
  | nil => exact takeWhile_dropWhile_of_forall_not h
  | cons a l ih =>
    rw [List.cons_append]
    by_cases ha : p a
    · rw [List.takeWhile_cons_of_pos ha, List.takeWhile_cons_of_pos ha,
        List.dropWhile_cons_of_pos ha, List.dropWhile_cons_of_pos ha, ih.1, ih.2]
      exact ⟨rfl, rfl⟩
    · rw [List.takeWhile_cons_of_neg ha, List.takeWhile_cons_of_neg ha,
        List.dropWhile_cons_of_neg ha, List.dropWhile_cons_of_neg ha]
      exact ⟨rfl, rfl⟩

/-- The run of insertions at a point ends at the seam. -/
theorem run_behind_append (rest : List (Candidate P)) (hc : c.fix.isInsertion)
    (h : ∀ d ∈ back, c.fix.Clears d.fix) :
    run c (rest ++ back) = run c rest ∧ behind c (rest ++ back) = behind c rest ++ back := by
  have hback : ∀ d ∈ back, ¬ insertsAt c.fix.span.start d := by
    intro d hd hinserts
    obtain ⟨hins, hstart⟩ := insertsAt_iff.1 hinserts
    exact (h d hd).not_beside hc hins hstart.symm
  obtain ⟨htake, hdrop⟩ := takeWhile_dropWhile_append (l := rest) hback
  exact ⟨congrArg (c :: ·) htake, hdrop⟩

/-- The sweep goes over the candidates on the two sides of a seam apart. -/
theorem sweep_append (hlast : ∀ d ∈ back, frontier last ≤ d.fix.span.start)
    (h : ∀ c ∈ front, ∀ d ∈ back, c.fix.Clears d.fix) :
    sweep policy last (front ++ back) =
      append (sweep policy last front) (sweep policy none back) := by
  induction last, front using sweep_induction policy with
  | nil last => rw [List.nil_append, sweep_eq_sweep_none hlast, sweep_nil, append_nil_left]
  | claimed last c rest claimant hcl ih =>
    obtain ⟨-, hrest⟩ := List.forall_mem_cons.1 h
    rw [List.cons_append, sweep_of_claimant hcl, sweep_of_claimant hcl, ih hlast hrest,
      append_assoc]
  | insertion last c rest hcl hc ih =>
    obtain ⟨hrun, hbehind⟩ := run_behind_append rest hc (h c List.mem_cons_self)
    have hmem : ∀ d, d ∈ run c rest ∨ d ∈ behind c rest → d ∈ c :: rest := by
      intro d hd
      rw [← run_append_behind c rest]
      exact List.mem_append.2 hd
    rw [List.cons_append, sweep_of_insertion hcl hc, sweep_of_insertion hcl hc, hrun, hbehind,
      ih ?_ fun d hd => h d (hmem d (.inr hd)), append_assoc]
    intro d hd
    cases haccepted : (settle policy c (run c rest)).accepted.getLast? with
    | none => exact hlast d hd
    | some fix =>
      obtain ⟨e, he, rfl⟩ := exists_of_mem_accepted_settle (List.mem_of_getLast? haccepted)
      exact (h e (hmem e (.inl he)) d hd).stop_le_start
  | replacement last c rest hcl hc ih =>
    obtain ⟨hc', hrest⟩ := List.forall_mem_cons.1 h
    rw [List.cons_append, sweep_of_replacement hcl hc, sweep_of_replacement hcl hc,
      ih (fun d hd => (hc' d hd).stop_le_start) hrest, append_assoc]

end Resolution

end Emend

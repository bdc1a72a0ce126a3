import Emend.Proofs.Resolution.Sweep

/-!
# Candidates at other places

The sweep does not look at the places of the candidates. It hands them on with the rejections, so
that candidates which have moved to other places get the same verdicts there (`sweep_moved`). Nor
does it matter where in a document their spans lie, but only how these lie to each other: candidates
which all lie further behind get the same verdicts there. Both are said at once by `sweep_carried`.
-/

namespace Emend

variable {P : Type}

/-! ## Further behind -/

/-- The span that lies `n` offsets further behind. -/
def Span.after (n : Nat) (span : Span) : Span := ⟨span.start + n, span.stop + n⟩

/-- The fix that lies `n` offsets further behind. -/
def Fix.after (n : Nat) (fix : Fix P) : Fix P := ⟨fix.span.after n, fix.payload, fix.origin⟩

/-- The rejection of what lies `n` offsets further behind, in a document that is so much longer. -/
def Rejection.after (n : Nat) : Rejection → Rejection
  | invalidRange span length => .invalidRange (span.after n) (length + n)
  | conflict span origin other => .conflict (span.after n) origin (other.after n)

/-- The candidate at the place to which its own has moved. -/
def Candidate.moved (place : Nat → Nat) (c : Candidate P) : Candidate P := ⟨place c.index, c.fix⟩

/-- The rejection at the place to which its own has moved. -/
def RejectedFix.moved (place : Nat → Nat) (r : RejectedFix P) : RejectedFix P :=
  ⟨place r.index, r.fix, r.reason⟩

/-- The candidate at another place in the batch, and further behind in the document. -/
def Candidate.carried (place : Nat → Nat) (n : Nat) (c : Candidate P) : Candidate P :=
  ⟨place c.index, c.fix.after n⟩

/-- The rejection at another place in the batch, and further behind in the document. -/
def RejectedFix.carried (place : Nat → Nat) (n : Nat) (r : RejectedFix P) : RejectedFix P :=
  ⟨place r.index, r.fix.after n, r.reason.after n⟩

section
variable {n : Nat}

theorem Span.overlaps_after (s t : Span) : (s.after n).overlaps (t.after n) = s.overlaps t := by
  simp [overlaps, isEmpty, after]

theorem Span.length_after (span : Span) : (span.after n).length = span.length :=
  Nat.add_sub_add_right _ _ _

theorem Fix.isInsertion_after (fix : Fix P) : (fix.after n).isInsertion = fix.isInsertion := by
  apply Bool.eq_iff_iff.2
  rw [isInsertion_iff, isInsertion_iff, after, Span.after]
  exact Nat.add_right_cancel_iff

theorem RejectedFix.carried_zero (place : Nat → Nat) (r : RejectedFix P) :
    r.carried place 0 = r.moved place := by
  obtain ⟨index, fix, reason⟩ := r
  cases reason <;> rfl

end

namespace Resolution

variable {place : Nat → Nat} {n : Nat} {policy : SamePointPolicy} {last : Option (Fix P)}
  {c : Candidate P} {rest cs : List (Candidate P)}

/-- The verdicts with the rejections at the places to which they have moved. -/
def moved (place : Nat → Nat) (v : Resolution P) : Resolution P :=
  ⟨v.accepted, v.rejected.map (.moved place)⟩

/-- The verdicts on fixes at other places in the batch, and further behind in the document. -/
def carried (place : Nat → Nat) (n : Nat) (v : Resolution P) : Resolution P :=
  ⟨v.accepted.map (.after n), v.rejected.map (.carried place n)⟩

theorem append_carried (a b : Resolution P) :
    append (a.carried place n) (b.carried place n) = (append a b).carried place n := by
  simp [append, carried]

theorem insertsAt_carried (offset : Nat) (c : Candidate P) :
    insertsAt (offset + n) (c.carried place n) = insertsAt offset c := by
  apply Bool.eq_iff_iff.2
  rw [insertsAt_iff, insertsAt_iff, Candidate.carried, Fix.isInsertion_after]
  exact and_congr_right' Nat.add_right_cancel_iff

theorem claimant?_carried : claimant? (last.map (.after n)) (c.carried place n) =
    (claimant? last c).map (.after n) := by
  cases last with
  | none => rfl
  | some fix =>
    simp only [claimant?, Option.map_some, Option.filter_some, Candidate.carried, Fix.after,
      Span.overlaps_after]
    split <;> rfl

theorem settle_carried {first : Candidate P} {group : List (Candidate P)} :
    settle policy (first.carried place n) (group.map (.carried place n)) =
      (settle policy first group).carried place n := by
  cases policy with
  | firstSubmitted =>
    rw [settle_firstSubmitted, settle_firstSubmitted, carried, List.filter_map, List.filter_map,
      List.map_map, List.map_map, List.map_map, List.map_map]
    rfl
  | rejectAll =>
    have hall : (group.map (Candidate.carried place n)).all
        (fun d => d.fix.origin == (first.carried place n).fix.origin) =
        group.all fun d => d.fix.origin == first.fix.origin := List.all_map
    by_cases h : group.all fun d => d.fix.origin == first.fix.origin
    · rw [settle_of_all (hall.trans h), settle_of_all h, List.map_map, carried, List.map_map]
      rfl
    · rw [settle_rejectAll (mt hall.symm.trans h), settle_rejectAll h, carried,
        List.filterMap_map, List.map_filterMap]
      congr 2
      funext d
      simp only [Function.comp_apply, List.find?_map, Option.map_map]
      rfl

theorem run_carried : run (c.carried place n) (rest.map (.carried place n)) =
    (run c rest).map (.carried place n) := by
  rw [run, run, List.takeWhile_map, List.map_cons]
  congr 3
  funext d
  exact insertsAt_carried c.fix.span.start d

theorem behind_carried : behind (c.carried place n) (rest.map (.carried place n)) =
    (behind c rest).map (.carried place n) := by
  rw [behind, behind, List.dropWhile_map]
  congr 2
  funext d
  exact insertsAt_carried c.fix.span.start d

/-- The last fix accepted after a run, if the run lies further behind. -/
theorem getLast?_settle_carried :
    ((settle policy (c.carried place n)
      (run (c.carried place n) (rest.map (.carried place n)))).accepted.getLast?.or
        (last.map (.after n))) =
      ((settle policy c (run c rest)).accepted.getLast?.or last).map (.after n) := by
  rw [run_carried, settle_carried, carried, List.getLast?_map, Option.map_or]

/-- Candidates at other places, which all lie further behind, get the same verdicts there. -/
theorem sweep_carried (last : Option (Fix P)) :
    sweep policy (last.map (.after n)) (cs.map (.carried place n)) =
      (sweep policy last cs).carried place n := by
  induction last, cs using sweep_induction policy with
  | nil last => simp [carried]
  | claimed last c rest claimant hcl ih =>
    have hcl' : claimant? (last.map (.after n)) (c.carried place n) =
        some (claimant.after n) := by
      rw [claimant?_carried, hcl]
      rfl
    rw [sweep_of_claimant hcl, List.map_cons, sweep_of_claimant hcl', ih, ← append_carried]
    rfl
  | insertion last c rest hcl hc ih =>
    have hcl' : claimant? (last.map (.after n)) (c.carried place n) = none := by
      rw [claimant?_carried, hcl]
      rfl
    have hc' : (c.carried place n).fix.isInsertion := (Fix.isInsertion_after c.fix).trans hc
    rw [sweep_of_insertion hcl hc, List.map_cons, sweep_of_insertion hcl' hc',
      getLast?_settle_carried, behind_carried, ih, run_carried, settle_carried, append_carried]
  | replacement last c rest hcl hc ih =>
    have hcl' : claimant? (last.map (.after n)) (c.carried place n) = none := by
      rw [claimant?_carried, hcl]
      rfl
    have hc' : ¬ (c.carried place n).fix.isInsertion :=
      fun h => hc ((Fix.isInsertion_after c.fix).symm.trans h)
    rw [sweep_of_replacement hcl hc, List.map_cons, sweep_of_replacement hcl' hc',
      ← append_carried, ← ih]
    rfl

theorem sweep_moved :
    sweep policy last (cs.map (.moved place)) = (sweep policy last cs).moved place := by
  have hsweep : sweep policy (last.map (.after 0)) (cs.map (.carried place 0)) = _ :=
    sweep_carried last
  have hlast : last.map (.after 0) = last := by cases last <;> rfl
  have haccepted : (sweep policy last cs).accepted.map (.after 0) =
      (sweep policy last cs).accepted := List.map_id _
  rw [hlast, carried, haccepted, funext (RejectedFix.carried_zero place)] at hsweep
  exact hsweep

end Resolution

end Emend

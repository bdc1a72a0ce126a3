import Emend.Proofs.Resolution.Sweep

/-!
# The plain resolver

The sweep compares a candidate with the last fix accepted only. The plain resolver keeps all the
fixes accepted so far and lets a test on all of them decide. With either of two tests it gives the
verdicts of the sweep: that the candidate starts before the greatest offset at which one of these
fixes stops (`startsInside`), and that it overlaps one of them (`overlapsAny`).

The reason is `Tracks`: the last fix accepted stops no earlier than any other. It survives each of
the steps, a run of insertions of which none is accepted included.
-/

namespace Emend

namespace Resolution

variable {P : Type}

/-- The fixes accepted and the candidates rejected. -/
structure PlainVerdict (P : Type) where
  accepted : List (Fix P)
  rejected : List (Candidate P)

/-- The verdict with more candidates rejected, ahead of those that are already. -/
def PlainVerdict.rejecting (v : PlainVerdict P) (cs : List (Candidate P)) : PlainVerdict P :=
  ⟨v.accepted, cs ++ v.rejected⟩

/-- Does the fix start before the greatest offset at which one of those accepted stops? -/
def startsInside (accepted : List (Fix P)) (fix : Fix P) : Bool :=
  (accepted.map (·.span.stop)).max?.any fun stop => fix.span.start < stop

/-- Does the fix overlap one of those accepted? -/
def overlapsAny (accepted : List (Fix P)) (fix : Fix P) : Bool :=
  accepted.any fun other => fix.span.overlaps other.span

/-- The verdicts on sorted candidates, where `blocked` tests a candidate against all the fixes
accepted before it. -/
def plainSweep (blocked : List (Fix P) → Fix P → Bool) (policy : SamePointPolicy)
    (accepted : List (Fix P)) : List (Candidate P) → PlainVerdict P
  | [] => ⟨accepted, []⟩
  | c :: rest =>
    if blocked accepted c.fix then (plainSweep blocked policy accepted rest).rejecting [c]
    else if c.fix.isInsertion then
      (plainSweep blocked policy
        (accepted ++ ((run c rest).filter (keeps policy c (run c rest))).map Candidate.fix)
        (behind c rest)).rejecting ((run c rest).filter fun d => !keeps policy c (run c rest) d)
    else plainSweep blocked policy (accepted ++ [c.fix]) rest
termination_by candidates => candidates.length
decreasing_by
  all_goals simp only [List.length_cons]
  · omega
  · have := (List.dropWhile_sublist (insertsAt c.fix.span.start) (l := rest)).length_le
    unfold behind
    omega
  · omega

/-- The plain verdicts on a batch. -/
def plainResolve (blocked : List (Fix P) → Fix P → Bool) (fixes : List (Fix P))
    (policy : SamePointPolicy) : PlainVerdict P :=
  let done := plainSweep blocked policy [] (stableSort Candidate.le (Candidate.enumerate fixes))
  ⟨done.accepted, stableSort (fun a b => a.index ≤ b.index) done.rejected⟩

/-- The verdicts without the reasons. -/
def plain (r : Resolution P) : PlainVerdict P :=
  ⟨r.accepted, r.rejected.map RejectedFix.candidate⟩

/-! ## Lemmas -/

/-- The last fix accepted is the last of them all and stops no earlier than any. -/
structure Tracks (accepted : List (Fix P)) (last : Option (Fix P)) : Prop where
  getLast?_eq : accepted.getLast? = last
  le_frontier : ∀ fix ∈ accepted, fix.span.stop ≤ frontier last

variable {policy : SamePointPolicy} {last : Option (Fix P)} {accepted : List (Fix P)}
  {c : Candidate P} {rest cs : List (Candidate P)}

namespace Tracks

theorem start : Tracks ([] : List (Fix P)) none where
  getLast?_eq := rfl
  le_frontier := nofun

theorem accept (h : Tracks accepted last) (hready : Ready last (c :: rest))
    (hcl : claimant? last c = none) : Tracks (accepted ++ [c.fix]) (some c.fix) where
  getLast?_eq := List.getLast?_concat
  le_frontier := by
    intro fix hfix
    have hle := hready.claimant?_eq_none_iff.1 hcl
    have hvalid := hready.valid c List.mem_cons_self
    show fix.span.stop ≤ c.fix.span.stop
    rcases List.mem_append.1 hfix with hfix | hfix
    · have := h.le_frontier fix hfix
      omega
    · obtain rfl := List.mem_singleton.1 hfix
      exact Nat.le_refl _

theorem settled (h : Tracks accepted last) (hready : Ready last (c :: rest))
    (hcl : claimant? last c = none) (hc : c.fix.isInsertion) :
    Tracks (accepted ++ (settle policy c (run c rest)).accepted)
      ((settle policy c (run c rest)).accepted.getLast?.or last) where
  getLast?_eq := by rw [List.getLast?_append, h.getLast?_eq]
  le_frontier := by
    intro fix hfix
    have hle := hready.claimant?_eq_none_iff.1 hcl
    rcases List.mem_append.1 hfix with hfix | hfix
    · exact Nat.le_trans (h.le_frontier fix hfix) (frontier_le_settled hc hle)
    · obtain ⟨hins, hstart⟩ := accepted_settle_run hc hfix
      rw [Fix.isInsertion_iff] at hins
      rw [frontier_settled hc hfix]
      omega

theorem startsInside_iff (h : Tracks accepted last) (hready : Ready last (c :: rest)) :
    startsInside accepted c.fix ↔ claimant? last c ≠ none := by
  rw [Ne, hready.claimant?_eq_none_iff, startsInside]
  cases hmax : (accepted.map (·.span.stop)).max? with
  | none =>
    have hnil : accepted = [] := by simpa using List.max?_eq_none_iff.1 hmax
    rw [← h.getLast?_eq, hnil]
    simp [frontier]
  | some stop =>
    obtain ⟨hmem, hmost⟩ := List.max?_eq_some_iff.1 hmax
    obtain ⟨fix, hfix, rfl⟩ := List.mem_map.1 hmem
    have hle := h.le_frontier fix hfix
    have hge : frontier last ≤ fix.span.stop := by
      rw [← h.getLast?_eq]
      cases hlast : accepted.getLast? with
      | none => exact Nat.zero_le _
      | some fix' => exact hmost _ (List.mem_map_of_mem (List.mem_of_getLast? hlast))
    simp only [Option.any_some, decide_eq_true_eq]
    omega

theorem overlapsAny_iff (h : Tracks accepted last) (hready : Ready last (c :: rest)) :
    overlapsAny accepted c.fix ↔ claimant? last c ≠ none := by
  rw [overlapsAny, List.any_eq_true]
  constructor
  · rintro ⟨fix, hfix, hover⟩ hcl
    have hle := hready.claimant?_eq_none_iff.1 hcl
    have hstop := h.le_frontier fix hfix
    simp only [Span.overlaps, Bool.and_eq_true, decide_eq_true_eq] at hover
    omega
  · intro hcl
    obtain ⟨fix, hfix⟩ := Option.ne_none_iff_exists'.1 hcl
    obtain ⟨hlast, hover⟩ := Option.filter_eq_some_iff.1 hfix
    exact ⟨fix, List.mem_of_getLast? (h.getLast?_eq.trans hlast), hover⟩

end Tracks

/-- A test on all the fixes accepted that agrees with the comparison with the last one gives the
verdicts of the sweep. -/
theorem plainSweep_eq {blocked : List (Fix P) → Fix P → Bool}
    (hblocked : ∀ {accepted last c rest}, Tracks accepted last → Ready last (c :: rest) →
      (blocked accepted c.fix ↔ claimant? last c ≠ none))
    (hready : Ready last cs) (htracks : Tracks accepted last) :
    plainSweep blocked policy accepted cs =
      ⟨accepted ++ (sweep policy last cs).accepted,
        (sweep policy last cs).rejected.map RejectedFix.candidate⟩ := by
  induction last, cs using sweep_induction policy generalizing accepted with
  | nil last => simp [plainSweep]
  | claimed last c rest claimant hcl ih =>
    have hb := (hblocked htracks hready).2 (by simp [hcl])
    rw [plainSweep, if_pos hb, ih hready.skip htracks, sweep_of_claimant hcl]
    rfl
  | insertion last c rest hcl hc ih =>
    have hb := mt (hblocked htracks hready).1 (not_not_intro hcl)
    rw [plainSweep, if_neg hb, if_pos hc, ← accepted_settle,
      ← candidate_rejected_settle (self_mem_run c rest),
      ih hready.settled (htracks.settled hready hcl hc), sweep_of_insertion hcl hc]
    simp [PlainVerdict.rejecting]
  | replacement last c rest hcl hc ih =>
    have hb := mt (hblocked htracks hready).1 (not_not_intro hcl)
    rw [plainSweep, if_neg hb, if_neg hc, ih hready.accept (htracks.accept hready hcl),
      sweep_of_replacement hcl hc]
    simp

theorem plainResolve_eq {blocked : List (Fix P) → Fix P → Bool}
    (hblocked : ∀ {accepted last c rest}, Tracks accepted last → Ready last (c :: rest) →
      (blocked accepted c.fix ↔ claimant? last c ≠ none))
    {fixes : List (Fix P)} (hvalid : ∀ fix ∈ fixes, fix.span.start ≤ fix.span.stop) :
    plainResolve blocked fixes policy = (resolve fixes policy).plain := by
  have hready : Ready none (stableSort Candidate.le (Candidate.enumerate fixes)) :=
    ready_stableSort fun c hc => hvalid c.fix (Candidate.fix_mem_of_mem_enumerate hc)
  rw [plainResolve, plainSweep_eq hblocked hready Tracks.start]
  show PlainVerdict.mk _ _ = PlainVerdict.mk _ _
  rw [List.nil_append, ← map_stableSort fun _ _ => rfl]
  rfl

/-- If no span is inverted, comparing with the last fix accepted decides the same as comparing
with where the fixes accepted stop at most, and the same as comparing with each of them. -/
theorem plain_resolve_eq (fixes : List (Fix P)) (policy : SamePointPolicy)
    (hvalid : ∀ fix ∈ fixes, fix.span.start ≤ fix.span.stop) :
    (resolve fixes policy).plain = plainResolve startsInside fixes policy ∧
    (resolve fixes policy).plain = plainResolve overlapsAny fixes policy :=
  ⟨(plainResolve_eq Tracks.startsInside_iff hvalid).symm,
    (plainResolve_eq Tracks.overlapsAny_iff hvalid).symm⟩

/-- A run of rival insertions that is dropped between two replacements, of which the second starts
inside the first. -/
theorem plain_resolve_eq_dropped_run :
    let fixes : List (Fix String) :=
      [⟨⟨4, 7⟩, "p", "a"⟩, .insert 0 "q" "a", ⟨⟨0, 5⟩, "r", "b"⟩, .insert 0 "s" "b"]
    (∀ fix ∈ fixes, fix.span.start ≤ fix.span.stop) ∧
    (resolve fixes .rejectAll).plain =
      ⟨[⟨⟨0, 5⟩, "r", "b"⟩],
        [⟨0, ⟨⟨4, 7⟩, "p", "a"⟩⟩, ⟨1, .insert 0 "q" "a"⟩, ⟨3, .insert 0 "s" "b"⟩]⟩ ∧
    (resolve fixes .rejectAll).plain = plainResolve startsInside fixes .rejectAll ∧
    (resolve fixes .rejectAll).plain = plainResolve overlapsAny fixes .rejectAll := by
  intro fixes
  have hvalid : ∀ fix ∈ fixes, fix.span.start ≤ fix.span.stop := by decide
  exact ⟨hvalid, by cbv, plain_resolve_eq fixes .rejectAll hvalid⟩

end Resolution

end Emend

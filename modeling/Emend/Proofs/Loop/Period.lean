import Mathlib.Dynamics.PeriodicPts.Defs
import Emend.Proofs.Loop.Cycle

/-!
# Limits and periods

A loop that its limit has not stopped ends the same way with every larger limit
(`run_eq_of_limit_le`), whatever the step is. If the step looks at the content alone (`ActsAs`), the
contents are the iterates of one function (`ActsAs.content_trace`). A cycle that the loop reports is
then a cycle of that function: its length is the least period of the content that the loop leaves
(`minimalPeriod_of_first_return`), and as every round of one turn has changed something, every round
to come will (`answer_of_return`). So no limit at all lets such a loop converge.
-/

namespace Emend

namespace FixLoop

open Function

variable {σ ε D H : Type}

/-- The step looks at the content alone: it returns the `answer` to it and leaves the `next` one. -/
structure ActsAs (step : σ → D → Stepped σ ε D) (answer : D → Except ε Bool) (next : D → D) :
    Prop where
  result_eq : ∀ state content, (step state content).result = answer content
  content_eq : ∀ state content, (step state content).content = next content

/-! ## Larger limits -/

section
variable [DecidableEq H] {digest : D → H} {step : σ → D → Stepped σ ε D} {limit limit' : Nat}

/-- More rounds change nothing for a loop that has not used up those it had. -/
theorem rounds_add {left extra done : Nat} {seen : List H} {state : σ} {content : D}
    (h : ∀ n, (rounds digest step left done seen state content).result ≠ .ok (.exhausted n)) :
    rounds digest step (left + extra) done seen state content =
      rounds digest step left done seen state content := by
  induction left generalizing done seen state content with
  | zero => exact absurd rfl (h done)
  | succ left ih =>
    rw [Nat.succ_add]
    cases hresult : (step state content).result with
    | error e => rw [rounds_of_error hresult, rounds_of_error hresult]
    | ok changed =>
      cases changed with
      | false => rw [rounds_of_unchanged hresult, rounds_of_unchanged hresult]
      | true =>
        cases hseen : seen.idxOf? (digest (step state content).content) with
        | some i => rw [rounds_of_seen hresult hseen, rounds_of_seen hresult hseen]
        | none =>
          rw [rounds_of_new hresult hseen] at h
          rw [rounds_of_new hresult hseen, rounds_of_new hresult hseen]
          exact ih h

theorem run_eq_of_limit_le {state : σ} {content : D} (hle : limit ≤ limit')
    (h : ∀ n, (run digest limit step state content).result ≠ .ok (.exhausted n)) :
    run digest limit' step state content = run digest limit step state content := by
  have hlimits : atLeastOne limit + (atLeastOne limit' - atLeastOne limit) = atLeastOne limit' :=
    Nat.add_sub_of_le (max_le_max_left 1 hle)
  rw [run, ← hlimits]
  exact rounds_add h

/-- A loop that finds a cycle under one limit converges under none. -/
theorem not_converged_of_cycle {state : σ} {content : D} {n : Nat}
    (hcycle : (run digest limit step state content).result = .ok (.cycle n)) (m : Nat) :
    (run digest limit' step state content).result ≠ .ok (.converged m) := by
  intro hconverged
  rcases Nat.le_total limit limit' with hle | hle
  · rw [run_eq_of_limit_le hle fun _ => by simp [hcycle], hcycle] at hconverged
    cases hconverged
  · rw [run_eq_of_limit_le hle fun _ => by simp [hconverged], hconverged] at hcycle
    cases hcycle

end

/-! ## Steps that look at the content alone -/

section
variable {step : σ → D → Stepped σ ε D} {answer : D → Except ε Bool} {next : D → D}

theorem ActsAs.content_trace (h : ActsAs step answer next) (state : σ) (content : D) (k : Nat) :
    (FixLoop.trace step state content k).content = next^[k] content := by
  induction k with
  | zero => rfl
  | succ k ih => rw [FixLoop.trace, h.content_eq, ih, iterate_succ_apply']

theorem ActsAs.result_trace (h : ActsAs step answer next) (state : σ) (content : D) (k : Nat) :
    (FixLoop.trace step state content (k + 1)).result = answer (next^[k] content) := by
  rw [FixLoop.trace, h.result_eq, h.content_trace]

variable {content : D}

theorem isPeriodicPt_of_return {i k : Nat} (hlt : i < k)
    (hback : next^[i] content = next^[k] content) :
    IsPeriodicPt next (k - i) (next^[k] content) := by
  rw [IsPeriodicPt, IsFixedPt, ← hback, ← iterate_add_apply,
    Nat.sub_add_cancel (Nat.le_of_lt hlt), hback]

/-- Where the iterates of a function first come back to an earlier one, the rounds since then are
the least period. -/
theorem minimalPeriod_of_first_return {i k : Nat} (hlt : i < k)
    (hback : next^[i] content = next^[k] content)
    (hnew : ∀ a < k, ∀ b < k, next^[a] content = next^[b] content → a = b) :
    minimalPeriod next (next^[k] content) = k - i := by
  have hperiodic := isPeriodicPt_of_return hlt hback
  have hle := hperiodic.minimalPeriod_le (Nat.sub_pos_of_lt hlt)
  have hpos := hperiodic.minimalPeriod_pos (Nat.sub_pos_of_lt hlt)
  by_contra hne
  -- A shorter way round would be a return before the `k`-th round.
  have hreturn : next^[minimalPeriod next (next^[k] content) + i] content = next^[i] content := by
    rw [iterate_add_apply, hback, iterate_minimalPeriod]
  have := hnew _ (by omega) i hlt hreturn
  omega

/-- If every round up to the return to an earlier content has changed something, so will every
round to come. -/
theorem answer_of_return {i k : Nat} (hlt : i < k) (hback : next^[i] content = next^[k] content)
    (hchanged : ∀ j < k, answer (next^[j] content) = .ok true) (j : Nat) :
    answer (next^[j] (next^[k] content)) = .ok true := by
  have hmod := Nat.mod_lt j (Nat.sub_pos_of_lt hlt)
  rw [← (isPeriodicPt_of_return hlt hback).iterate_mod_apply, ← hback, ← iterate_add_apply]
  exact hchanged _ (by omega)

end

/-! ## Cycles -/

section
variable {digest : D → H} {limit k n : Nat}

/-- Up to the round that finds a cycle every round has changed something. -/
theorem Finished.result_of_cycle {trace : Nat → Stepped σ ε D} {done : Looped σ ε D}
    (h : Finished digest limit trace k done) (hcycle : done.result = .ok (.cycle n)) {j : Nat}
    (hpos : 1 ≤ j) (hle : j ≤ k) : (trace j).result = .ok true := by
  rcases Nat.lt_or_eq_of_le hle with hlt | rfl
  · have hnot : ¬ Halts digest trace j := by
      intro hhalts
      have := h.isLeast.2 ⟨hpos, .inl hhalts⟩
      omega
    exact result_eq_true hnot
  · have hanswers := h.answers
    rw [hcycle] at hanswers
    cases hanswers with
    | repeated hresult => exact hresult

/-- A cycle in which the content itself has come back is one of the function that the step applies:
every round to come changes something, and the rounds of the cycle are the least period. -/
theorem Finished.forever_of_cycle {step : σ → D → Stepped σ ε D} {answer : D → Except ε Bool}
    {next : D → D} (hpure : ActsAs step answer next) {state : σ} {content : D}
    {done : Looped σ ε D} (h : Finished digest limit (FixLoop.trace step state content) k done)
    (hcycle : done.result = .ok (.cycle n))
    (hback : done.content = (FixLoop.trace step state content (k - n)).content) :
    (∀ j, answer (next^[j] done.content) = .ok true) ∧
      minimalPeriod next done.content = n := by
  obtain ⟨hpos, hle, -⟩ := h.fingerprint_eq_of_cycle hcycle
  have hlt : k - n < k := by omega
  rw [h.content_eq, hpure.content_trace, hpure.content_trace] at hback
  rw [h.content_eq, hpure.content_trace]
  constructor
  · refine answer_of_return hlt hback.symm fun j hj => ?_
    rw [← hpure.result_trace state content]
    exact h.result_of_cycle hcycle (Nat.le_add_left 1 j) hj
  · rw [minimalPeriod_of_first_return hlt hback.symm, Nat.sub_sub_self hle]
    intro a ha b hb heq
    rw [← hpure.content_trace state content, ← hpure.content_trace state content] at heq
    exact fingerprint_inj h.isLeast ha hb (congrArg digest heq)

end

/-- A loop over a text whose step looks at the text alone, and that ends because nothing is left to
change or because a text comes back, ends the same way with every larger limit. A cycle of `n`
rounds means that the loop converges with no limit: from the text that it leaves every round to come
changes something, and that text comes back after `n` rounds and not before. -/
theorem run_settled_of_pure {step : σ → String → Stepped σ ε String}
    {answer : String → Except ε Bool} {next : String → String} (hpure : ActsAs step answer next)
    (limit : Nat) (state : σ) (content : String)
    (hfree : CollisionFree .text (FixLoop.trace step state content)
      (calls Shape.text.fingerprint limit step state content)) :
    let run (limit : Nat) : Looped σ ε String :=
      run Shape.text.fingerprint limit step state content
    ((∃ n, (run limit).result = .ok (.converged n) ∨ (run limit).result = .ok (.cycle n)) →
      ∀ limit' ≥ limit, run limit' = run limit) ∧
    ∀ n, (run limit).result = .ok (.cycle n) →
      (∀ limit' m, (run limit').result ≠ .ok (.converged m)) ∧
      (∀ j, answer (next^[j] (run limit).content) = .ok true) ∧
      0 < n ∧ minimalPeriod next (run limit).content = n := by
  intro run
  refine ⟨?_, fun n hcycle => ⟨fun limit' m => not_converged_of_cycle hcycle m, ?_⟩⟩
  · rintro ⟨n, hn⟩ limit' hle
    refine run_eq_of_limit_le hle fun m hm => ?_
    rcases hn with hn | hn <;> cases hn.symm.trans hm
  · have h := finished_run Shape.text.fingerprint limit step state content
    obtain ⟨hpos, -, hbytes⟩ := Finished.content_eq_of_cycle (s := .text) h hfree hcycle
    obtain ⟨hchanges, hperiod⟩ :=
      h.forever_of_cycle hpure hcycle (String.toByteArray_inj.1 hbytes)
    exact ⟨hchanges, hpos, hperiod⟩

/-- A text that is not on the cycle it leads into: the limit of three rounds is the least that
finds the cycle of two, and all larger ones find the same. -/
theorem run_settled_of_pure_tail :
    let run (limit : Nat) : Looped Unit Empty String :=
      run Shape.text.fingerprint limit swapping () "x"
    ActsAs swapping (fun _ => .ok true) (fun text => if text = "a" then "b" else "a") ∧
    CollisionFree .text (FixLoop.trace swapping () "x")
      (calls Shape.text.fingerprint 3 swapping () "x") ∧
    (run 2).result = .ok (.exhausted 2) ∧ (run 3).result = .ok (.cycle 2) ∧
    (∀ limit' ≥ 3, run limit' = run 3) ∧
    minimalPeriod (fun text : String => if text = "a" then "b" else "a") (run 3).content = 2 := by
  intro run
  have hpure : ActsAs swapping (fun _ => .ok true) (fun text => if text = "a" then "b" else "a") :=
    ⟨fun _ _ => rfl, fun _ _ => rfl⟩
  have hcalls : calls Shape.text.fingerprint 3 swapping () "x" = 3 := by decide +kernel
  have hfree : CollisionFree .text (FixLoop.trace swapping () "x") 3 := by decide +kernel
  have hexhausted : (run 2).result = .ok (.exhausted 2) := by decide +kernel
  have hcycle : (run 3).result = .ok (.cycle 2) := by decide +kernel
  rw [← hcalls] at hfree
  obtain ⟨hlarger, hperiod⟩ := run_settled_of_pure hpure 3 () "x" hfree
  exact ⟨hpure, hfree, hexhausted, hcycle, hlarger ⟨2, .inr hcycle⟩, (hperiod 2 hcycle).2.2.2⟩

end FixLoop

end Emend

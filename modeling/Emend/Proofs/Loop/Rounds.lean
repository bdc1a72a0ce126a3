import Mathlib.Order.Bounds.Basic
import Emend.FixLoop

/-!
# The rounds of a fix loop

A loop follows the `trace` of its step: what the calls return and leave, one after the other, were
nothing to end it. It ends with the least round that halts (`Halts`) or is the last allowed one, and
`Answers` says what it then returns, of the four ways to end the one that comes first in the round.

`FixLoop.rounds` is `Underway` until then: no round has halted, and the fingerprints seen are those
of the trace so far, so the place of a fingerprint among them counts the rounds since it was new.
`Underway.finished` follows the rounds that are left; `finished_run` is what becomes of a whole run.

A step that does with a view of the state what another one does with the state makes a loop that is
a view of the other's (`run_viewed`).
-/

namespace Emend

/-- What a step returns with a view of its state. -/
def Stepped.viewed {σ τ ε D : Type} (view : σ → τ) (next : Stepped σ ε D) : Stepped τ ε D :=
  ⟨next.result, next.content, view next.state⟩

/-- What a loop leaves with a view of its state. -/
def Looped.viewed {σ τ ε D : Type} (view : σ → τ) (done : Looped σ ε D) : Looped τ ε D :=
  ⟨done.result, done.content, view done.state⟩

namespace FixLoop

variable {σ ε D H : Type}

/-- What the calls of the step return and leave: the `k`-th call at `k`, and at 0 the start. -/
def trace (step : σ → D → Stepped σ ε D) (state : σ) (content : D) : Nat → Stepped σ ε D
  | 0 => ⟨.ok true, content, state⟩
  | k + 1 => step (trace step state content k).state (trace step state content k).content

/-- The step with a count of its calls beside its state. -/
def counting (step : σ → D → Stepped σ ε D) (s : Nat × σ) (content : D) : Stepped (Nat × σ) ε D :=
  let next := step s.2 content
  ⟨next.result, next.content, s.1 + 1, next.state⟩

/-- How often a run calls the step. -/
def calls [DecidableEq H] (digest : D → H) (limit : Nat) (step : σ → D → Stepped σ ε D)
    (state : σ) (content : D) : Nat :=
  (run digest limit (counting step) (0, state) content).state.1

/-- The `k`-th call fails, changes nothing, or leaves a content with a fingerprint that an earlier
content has. -/
def Halts (digest : D → H) (trace : Nat → Stepped σ ε D) (k : Nat) : Prop :=
  (∃ e, (trace k).result = .error e) ∨ (trace k).result = .ok false ∨
    ∃ i < k, digest (trace i).content = digest (trace k).content

/-- A loop with the limit has to end with the `k`-th round at the latest. -/
def Ends (digest : D → H) (limit : Nat) (trace : Nat → Stepped σ ε D) (k : Nat) : Prop :=
  1 ≤ k ∧ (Halts digest trace k ∨ k = atLeastOne limit)

/-- What a loop returns that ends with the `k`-th round. -/
inductive Answers (digest : D → H) (limit : Nat) (trace : Nat → Stepped σ ε D) (k : Nat) :
    Except ε LoopEnd → Prop
  | failed {e : ε} : (trace k).result = .error e → Answers digest limit trace k (.error e)
  | unchanged : (trace k).result = .ok false → Answers digest limit trace k (.ok (.converged k))
  | repeated {i : Nat} : (trace k).result = .ok true → i < k →
      digest (trace i).content = digest (trace k).content →
      Answers digest limit trace k (.ok (.cycle (k - i)))
  | exhausted : (trace k).result = .ok true →
      (∀ i < k, digest (trace i).content ≠ digest (trace k).content) → k = atLeastOne limit →
      Answers digest limit trace k (.ok (.exhausted (atLeastOne limit)))

/-- What a loop leaves that follows the trace up to the `k`-th round. -/
structure Finished (digest : D → H) (limit : Nat) (trace : Nat → Stepped σ ε D) (k : Nat)
    (done : Looped σ ε D) : Prop where
  isLeast : IsLeast {k | Ends digest limit trace k} k
  content_eq : done.content = (trace k).content
  state_eq : done.state = (trace k).state
  answers : Answers digest limit trace k done.result

/-- A loop after `done` rounds: none of them has halted, and `seen` holds the fingerprints so far,
the newest first. -/
structure Underway (digest : D → H) (trace : Nat → Stepped σ ε D) (done : Nat) (seen : List H) :
    Prop where
  length_seen : seen.length = done + 1
  getElem_seen : ∀ (i : Nat) (h : i < seen.length),
    seen[i] = digest (trace (done - i)).content
  not_halts : ∀ k, 1 ≤ k → k ≤ done → ¬ Halts digest trace k

variable {digest : D → H} {limit : Nat} {trace : Nat → Stepped σ ε D} {k done : Nat} {seen : List H}

theorem result_eq_true (h : ¬ Halts digest trace k) : (trace k).result = .ok true := by
  unfold Halts at h
  cases hresult : (trace k).result with
  | error e => exact absurd (.inl ⟨e, hresult⟩) h
  | ok changed =>
    cases changed with
    | false => exact absurd (.inr (.inl hresult)) h
    | true => rfl

/-- Before the round that ends a loop all fingerprints are different. -/
theorem fingerprint_inj (h : IsLeast {k | Ends digest limit trace k} k) {i j : Nat} (hi : i < k)
    (hj : j < k) (heq : digest (trace i).content = digest (trace j).content) : i = j := by
  have hlt : ∀ {i j : Nat}, i < j → j < k →
      digest (trace i).content ≠ digest (trace j).content := by
    intro i j hij hjk heq
    have hends : Ends digest limit trace j := ⟨by omega, .inl (.inr (.inr ⟨i, hij, heq⟩))⟩
    have := h.2 hends
    omega
  rcases Nat.lt_trichotomy i j with hij | hij | hij
  · exact absurd heq (hlt hij hj)
  · exact hij
  · exact absurd heq.symm (hlt hij hi)

/-! ## The steps of the loop -/

section
variable [DecidableEq H] {step : σ → D → Stepped σ ε D} {state : σ} {content : D} {left : Nat}

theorem rounds_of_error {e : ε} (h : (step state content).result = .error e) :
    rounds digest step (left + 1) done seen state content =
      ⟨.error e, (step state content).content, (step state content).state⟩ := by
  simp only [rounds, h]

theorem rounds_of_unchanged (h : (step state content).result = .ok false) :
    rounds digest step (left + 1) done seen state content =
      ⟨.ok (.converged (done + 1)), (step state content).content, (step state content).state⟩ := by
  simp only [rounds, h]

theorem rounds_of_seen {i : Nat} (h : (step state content).result = .ok true)
    (hseen : seen.idxOf? (digest (step state content).content) = some i) :
    rounds digest step (left + 1) done seen state content =
      ⟨.ok (.cycle (i + 1)), (step state content).content, (step state content).state⟩ := by
  simp only [rounds, h, hseen]

theorem rounds_of_new (h : (step state content).result = .ok true)
    (hseen : seen.idxOf? (digest (step state content).content) = none) :
    rounds digest step (left + 1) done seen state content =
      rounds digest step left (done + 1) (digest (step state content).content :: seen)
        (step state content).state (step state content).content := by
  simp only [rounds, h, hseen]

end

/-! ## The rounds before the last -/

namespace Underway

theorem start (digest : D → H) (trace : Nat → Stepped σ ε D) :
    Underway digest trace 0 [digest (trace 0).content] where
  length_seen := rfl
  getElem_seen := by
    intro i hi
    obtain rfl : i = 0 := Nat.lt_one_iff.1 hi
    rfl
  not_halts := by
    intro k hk hle
    omega

theorem mem_seen_iff (h : Underway digest trace done seen) {x : H} :
    x ∈ seen ↔ ∃ i ≤ done, digest (trace i).content = x := by
  have hlength := h.length_seen
  rw [List.mem_iff_getElem]
  constructor
  · rintro ⟨i, hi, rfl⟩
    exact ⟨done - i, Nat.sub_le _ _, (h.getElem_seen i hi).symm⟩
  · rintro ⟨i, hi, rfl⟩
    refine ⟨done - i, by omega, ?_⟩
    rw [h.getElem_seen, Nat.sub_sub_self hi]

/-- A round that does not halt is one more of the kind. -/
theorem next (h : Underway digest trace done seen) (hnot : ¬ Halts digest trace (done + 1)) :
    Underway digest trace (done + 1) (digest (trace (done + 1)).content :: seen) where
  length_seen := congrArg (· + 1) h.length_seen
  getElem_seen := by
    intro i hi
    cases i with
    | zero => rfl
    | succ i =>
      rw [List.getElem_cons_succ, h.getElem_seen, Nat.add_sub_add_right]
  not_halts := by
    intro k hk hle
    rcases Nat.lt_or_eq_of_le hle with hlt | rfl
    · exact h.not_halts k hk (Nat.le_of_lt_succ hlt)
    · exact hnot

/-- If no round up to `done` has halted, the loop does not end before the next round, nor before
its last one. -/
theorem isLeast (h : Underway digest trace done seen) (hk : Ends digest limit trace k)
    (hle : k ≤ atLeastOne limit) (hdone : k ≤ done + 1) :
    IsLeast {k | Ends digest limit trace k} k := by
  refine ⟨hk, fun j hj => ?_⟩
  obtain ⟨hpos, hhalts | rfl⟩ := hj
  · by_contra hlt
    exact h.not_halts j hpos (by omega) hhalts
  · exact hle

variable [DecidableEq H]

/-- Where a fingerprint stands among those seen says when it was new. -/
theorem exists_of_idxOf? (h : Underway digest trace done seen) {x : H} {i : Nat}
    (hi : seen.idxOf? x = some i) : i ≤ done ∧ digest (trace (done - i)).content = x := by
  obtain ⟨hlt, heq, -⟩ := List.findIdx?_eq_some_iff_getElem.1 hi
  rw [h.getElem_seen] at heq
  have := h.length_seen
  exact ⟨by omega, eq_of_beq heq⟩

theorem not_halts_of_idxOf? (h : Underway digest trace done seen)
    (hresult : (trace (done + 1)).result = .ok true)
    (hnone : seen.idxOf? (digest (trace (done + 1)).content) = none) :
    ¬ Halts digest trace (done + 1) := by
  rw [List.idxOf?_eq_none_iff, h.mem_seen_iff] at hnone
  rintro (⟨e, he⟩ | hfalse | ⟨i, hi, heq⟩)
  · rw [hresult] at he
    cases he
  · rw [hresult] at hfalse
    cases hfalse
  · exact hnone ⟨i, Nat.le_of_lt_succ hi, heq⟩

variable {step : σ → D → Stepped σ ε D} {state : σ} {content : D}

/-- The rounds that are left end the loop as its trace says. -/
theorem finished {left : Nat} (h : Underway digest (FixLoop.trace step state content) done seen)
    (hleft : done + left = atLeastOne limit) :
    ∃ k, Finished digest limit (FixLoop.trace step state content) k
      (rounds digest step left done seen (FixLoop.trace step state content done).state
        (FixLoop.trace step state content done).content) := by
  induction left generalizing done seen with
  | zero =>
    have hpos : 1 ≤ atLeastOne limit := Nat.le_max_left 1 limit
    obtain rfl : done = atLeastOne limit := hleft
    have hnot := h.not_halts _ hpos (Nat.le_refl _)
    refine ⟨atLeastOne limit, ?_, rfl, rfl, ?_⟩
    · exact h.isLeast ⟨hpos, .inr rfl⟩ (Nat.le_refl _) (Nat.le_succ _)
    · refine .exhausted (result_eq_true hnot) (fun i hi heq => ?_) rfl
      exact hnot (.inr (.inr ⟨i, hi, heq⟩))
  | succ left ih =>
    have hleast : Halts digest (FixLoop.trace step state content) (done + 1) →
        IsLeast {k | Ends digest limit (FixLoop.trace step state content) k} (done + 1) := by
      intro hhalts
      exact h.isLeast ⟨Nat.le_add_left 1 done, .inl hhalts⟩ (by omega) (Nat.le_refl _)
    cases hresult : (FixLoop.trace step state content (done + 1)).result with
    | error e =>
      rw [rounds_of_error hresult]
      exact ⟨done + 1, hleast (.inl ⟨e, hresult⟩), rfl, rfl, .failed hresult⟩
    | ok changed =>
      cases changed with
      | false =>
        rw [rounds_of_unchanged hresult]
        exact ⟨done + 1, hleast (.inr (.inl hresult)), rfl, rfl, .unchanged hresult⟩
      | true =>
        cases hseen : seen.idxOf?
            (digest (FixLoop.trace step state content (done + 1)).content) with
        | some i =>
          obtain ⟨hi, heq⟩ := h.exists_of_idxOf? hseen
          have hlt : done - i < done + 1 := by omega
          have hcycle : Answers digest limit (FixLoop.trace step state content) (done + 1)
              (.ok (.cycle (done + 1 - (done - i)))) := .repeated hresult hlt heq
          rw [show done + 1 - (done - i) = i + 1 by omega] at hcycle
          rw [rounds_of_seen hresult hseen]
          exact ⟨done + 1, hleast (.inr (.inr ⟨done - i, hlt, heq⟩)), rfl, rfl, hcycle⟩
        | none =>
          rw [rounds_of_new hresult hseen]
          exact ih (h.next (h.not_halts_of_idxOf? hresult hseen)) (by omega)

end Underway

/-- The rounds before the last one change something. -/
theorem Finished.result_eq_true_of_lt {done : Looped σ ε D} (h : Finished digest limit trace k done)
    {i : Nat} (hpos : 1 ≤ i) (hi : i < k) : (trace i).result = .ok true := by
  have hnot : ¬ Halts digest trace i := fun hhalts =>
    Nat.not_le_of_lt hi (h.isLeast.2 ⟨hpos, .inl hhalts⟩)
  exact result_eq_true hnot

/-- The last round of a loop that does not fail does not fail. -/
theorem Finished.exists_changed {done : Looped σ ε D} (h : Finished digest limit trace k done)
    {ending : LoopEnd} (hdone : done.result = .ok ending) :
    ∃ changed, (trace k).result = .ok changed := by
  have hanswers := h.answers
  rw [hdone] at hanswers
  cases hanswers with
  | unchanged hresult => exact ⟨false, hresult⟩
  | repeated hresult => exact ⟨true, hresult⟩
  | exhausted hresult => exact ⟨true, hresult⟩

/-! ## Whole runs -/

/-- Counting the calls changes nothing else. -/
theorem trace_counting (step : σ → D → Stepped σ ε D) (state : σ) (content : D) (n k : Nat) :
    FixLoop.trace (counting step) (n, state) content k =
      ⟨(FixLoop.trace step state content k).result, (FixLoop.trace step state content k).content,
        n + k, (FixLoop.trace step state content k).state⟩ := by
  induction k with
  | zero => rfl
  | succ k ih =>
    rw [FixLoop.trace, ih]
    rfl

theorem ends_counting_iff {step : σ → D → Stepped σ ε D} {state : σ} {content : D} {n : Nat} :
    Ends digest limit (FixLoop.trace (counting step) (n, state) content) k ↔
      Ends digest limit (FixLoop.trace step state content) k := by
  simp only [Ends, Halts, trace_counting]

section
variable [DecidableEq H] (digest : D → H) (limit : Nat) (step : σ → D → Stepped σ ε D) (state : σ)
  (content : D)

theorem exists_finished : ∃ k, Finished digest limit (FixLoop.trace step state content) k
    (run digest limit step state content) :=
  (Underway.start digest (FixLoop.trace step state content)).finished (Nat.zero_add _)

/-- A run ends with its last call of the step. -/
theorem finished_run : Finished digest limit (FixLoop.trace step state content)
    (calls digest limit step state content) (run digest limit step state content) := by
  obtain ⟨k, hrun⟩ := exists_finished digest limit step state content
  obtain ⟨k', hcounted⟩ := exists_finished digest limit (counting step) (0, state) content
  have hk : k' = k := by
    have hleast := hcounted.isLeast
    simp only [ends_counting_iff] at hleast
    exact hleast.unique hrun.isLeast
  have hcalls : calls digest limit step state content = k := by
    rw [calls, hcounted.state_eq, trace_counting, hk]
    exact Nat.zero_add k
  rw [hcalls]
  exact hrun

/-- A run calls the step up to the least round that fails, changes nothing, leaves a fingerprint
seen before or is the last one allowed, leaves the content of that round, and answers with the
first of these that is the case. Before that round all fingerprints are different. -/
theorem run_ends_at_least_round :
    let trace := FixLoop.trace step state content
    let k := calls digest limit step state content
    let done := run digest limit step state content
    IsLeast {k | 1 ≤ k ∧ (Halts digest trace k ∨ k = max 1 limit)} k ∧
    done.content = (trace k).content ∧ done.state = (trace k).state ∧
    Answers digest limit trace k done.result ∧
    ∀ i < k, ∀ j < k, digest (trace i).content = digest (trace j).content → i = j := by
  have h := finished_run digest limit step state content
  exact ⟨h.isLeast, h.content_eq, h.state_eq, h.answers,
    fun i hi j hj heq => fingerprint_inj h.isLeast hi hj heq⟩

end

/-! ## Views of the state -/

section
variable {τ : Type} [DecidableEq H] {view : σ → τ} {step : σ → D → Stepped σ ε D}
  {step' : τ → D → Stepped τ ε D}
  (h : ∀ state content, step' (view state) content = (step state content).viewed view)
include h

theorem rounds_viewed (left done : Nat) (seen : List H) (state : σ) (content : D) :
    rounds digest step' left done seen (view state) content =
      (rounds digest step left done seen state content).viewed view := by
  induction left generalizing done seen state content with
  | zero => rfl
  | succ left ih =>
    have hstep := h state content
    have hresult : (step' (view state) content).result = (step state content).result := by
      rw [hstep]
      rfl
    cases hnext : (step state content).result with
    | error e =>
      rw [rounds_of_error hnext, rounds_of_error (hresult.trans hnext), hstep]
      rfl
    | ok changed =>
      cases changed with
      | false =>
        rw [rounds_of_unchanged hnext, rounds_of_unchanged (hresult.trans hnext), hstep]
        rfl
      | true =>
        cases hseen : seen.idxOf? (digest (step state content).content) with
        | some i =>
          rw [rounds_of_seen hnext hseen,
            rounds_of_seen (hresult.trans hnext) (by rw [hstep]; exact hseen), hstep]
          rfl
        | none =>
          rw [rounds_of_new hnext hseen,
            rounds_of_new (hresult.trans hnext) (by rw [hstep]; exact hseen), hstep]
          exact ih _ _ _ _

/-- If a step does with a view of the state what another one does with the state, a run of it leaves
the view of what a run of the other leaves. -/
theorem run_viewed (digest : D → H) (limit : Nat) (state : σ) (content : D) :
    run digest limit step' (view state) content =
      (run digest limit step state content).viewed view :=
  rounds_viewed h _ _ _ _ _

end

/-- A content that comes back with the last round allowed is a cycle. -/
example : (run id 2 (fun _ b => (⟨.ok true, !b, ()⟩ : Stepped Unit Empty Bool)) () true).result =
    .ok (.cycle 2) := rfl

end FixLoop

end Emend

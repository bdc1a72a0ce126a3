import Mathlib
import Emend.Document.Lines
import Emend.Document.Text
import Emend.Proofs.Loop.Rounds

/-!
# Contents that come back

A loop that reports a cycle has met a fingerprint again. If no two contents of the run collide,
their bytes are the same (`Finished.content_eq_of_cycle`). The bytes of a text are the text, so
there the content itself has come back. The bytes of a line list are its lines joined with newlines,
so there it has come back as far as both lists are `Lines.Proper`; a list with a newline in one of
its lines, or with no line at all, passes for another one (`cycle_without_return`).
-/

namespace Emend

namespace FixLoop

variable {σ ε : Type} {s : Shape}

/-- Up to the `k`-th round only contents with the same bytes have the same fingerprint. -/
def CollisionFree (s : Shape) (trace : Nat → Stepped σ ε s.Doc) (k : Nat) : Prop :=
  ∀ i ≤ k, ∀ j ≤ k, s.fingerprint (trace i).content = s.fingerprint (trace j).content →
    s.content (trace i).content = s.content (trace j).content

/-- Contents with the same bytes need no fingerprints. -/
theorem collisionFree_iff {trace : Nat → Stepped σ ε s.Doc} {k : Nat} :
    (∀ i ≤ k, ∀ j ≤ k, s.content (trace i).content = s.content (trace j).content ∨
      s.fingerprint (trace i).content ≠ s.fingerprint (trace j).content) ↔
    CollisionFree s trace k := by
  unfold CollisionFree
  constructor
  · intro h i hi j hj heq
    exact (h i hi j hj).resolve_right (not_not_intro heq)
  · intro h i hi j hj
    exact Decidable.or_iff_not_imp_right.2 fun hne => h i hi j hj (Decidable.not_not.1 hne)

instance (trace : Nat → Stepped σ ε s.Doc) (k : Nat) : Decidable (CollisionFree s trace k) :=
  decidable_of_iff _ collisionFree_iff

/-- A cycle of `n` rounds ends with the fingerprint of `n` rounds before. -/
theorem Finished.fingerprint_eq_of_cycle {D H : Type} {digest : D → H} {limit k n : Nat}
    {trace : Nat → Stepped σ ε D} {done : Looped σ ε D} (h : Finished digest limit trace k done)
    (hcycle : done.result = .ok (.cycle n)) :
    0 < n ∧ n ≤ k ∧ digest (trace (k - n)).content = digest (trace k).content := by
  have hanswers := h.answers
  rw [hcycle] at hanswers
  cases hanswers with
  | repeated hresult hi heq =>
    rename_i i
    rw [Nat.sub_sub_self (Nat.le_of_lt hi)]
    exact ⟨Nat.sub_pos_of_lt hi, Nat.sub_le _ _, heq⟩

/-- Where nothing collides, the bytes of `n` rounds before have come back. -/
theorem Finished.content_eq_of_cycle {limit k n : Nat} {trace : Nat → Stepped σ ε s.Doc}
    {done : Looped σ ε s.Doc} (h : Finished s.fingerprint limit trace k done)
    (hfree : CollisionFree s trace k) (hcycle : done.result = .ok (.cycle n)) :
    0 < n ∧ n ≤ k ∧ s.content done.content = s.content (trace (k - n)).content := by
  obtain ⟨hpos, hle, heq⟩ := h.fingerprint_eq_of_cycle hcycle
  refine ⟨hpos, hle, ?_⟩
  rw [h.content_eq]
  exact (hfree (k - n) (Nat.sub_le _ _) k (Nat.le_refl k) heq).symm

/-- If no two contents of the run collide, a loop over a text reports a cycle of `n` rounds only
when the text is that of `n` rounds before. A loop over lines does so only when the joined lines
are those of `n` rounds before, and the lines themselves are if both lists are proper. -/
theorem run_returns_on_cycle (limit n : Nat) (state : σ) :
    (∀ (step : σ → String → Stepped σ ε String) (content : String),
      let trace := FixLoop.trace step state content
      let k := calls Shape.text.fingerprint limit step state content
      let done := run Shape.text.fingerprint limit step state content
      CollisionFree .text trace k → done.result = .ok (.cycle n) →
        0 < n ∧ n ≤ k ∧ done.content = (trace (k - n)).content) ∧
    (∀ (step : σ → Lines → Stepped σ ε Lines) (content : Lines),
      let trace := FixLoop.trace step state content
      let k := calls Shape.lines.fingerprint limit step state content
      let done := run Shape.lines.fingerprint limit step state content
      CollisionFree .lines trace k → done.result = .ok (.cycle n) →
        0 < n ∧ n ≤ k ∧ done.content.toText = (trace (k - n)).content.toText ∧
          (done.content.Proper → (trace (k - n)).content.Proper →
            done.content = (trace (k - n)).content)) := by
  constructor
  · intro step content trace k done hfree hcycle
    have h := finished_run Shape.text.fingerprint limit step state content
    obtain ⟨hpos, hle, heq⟩ := Finished.content_eq_of_cycle (s := .text) h hfree hcycle
    exact ⟨hpos, hle, String.toByteArray_inj.1 heq⟩
  · intro step content trace k done hfree hcycle
    have h := finished_run Shape.lines.fingerprint limit step state content
    obtain ⟨hpos, hle, heq⟩ := Finished.content_eq_of_cycle (s := .lines) h hfree hcycle
    have htext : done.content.toText = (trace (k - n)).content.toText :=
      String.toByteArray_inj.1 heq
    exact ⟨hpos, hle, htext, fun hproper hproper' => Lines.toText_inj hproper hproper' htext⟩

/-- A text swapped for another one and back. -/
def swapping (_ : Unit) (text : String) : Stepped Unit Empty String :=
  ⟨.ok true, if text = "a" then "b" else "a", ()⟩

/-- A line list that gains an empty line and loses it again. -/
def growing (_ : Unit) (lines : Lines) : Stepped Unit Empty Lines :=
  ⟨.ok true, if lines = ⟨["a"]⟩ then ⟨["a", ""]⟩ else ⟨["a"]⟩, ()⟩

/-- Both loops report that they have come back after two rounds, and they have. -/
theorem run_returns_on_cycle_alternating :
    CollisionFree .text (FixLoop.trace swapping () "a")
      (calls Shape.text.fingerprint 10 swapping () "a") ∧
    (run Shape.text.fingerprint 10 swapping () "a").result = .ok (.cycle 2) ∧
    (run Shape.text.fingerprint 10 swapping () "a").content = "a" ∧
    CollisionFree .lines (FixLoop.trace growing () ⟨["a"]⟩)
      (calls Shape.lines.fingerprint 10 growing () ⟨["a"]⟩) ∧
    (run Shape.lines.fingerprint 10 growing () ⟨["a"]⟩).result = .ok (.cycle 2) ∧
    (run Shape.lines.fingerprint 10 growing () ⟨["a"]⟩).content = Lines.mk ["a"] := by
  have hcalls : calls Shape.text.fingerprint 10 swapping () "a" = 2 := by decide +kernel
  have hfree : CollisionFree .text (FixLoop.trace swapping () "a") 2 := by decide +kernel
  have hcycle : (run Shape.text.fingerprint 10 swapping () "a").result = .ok (.cycle 2) := by
    decide +kernel
  have hcalls' : calls Shape.lines.fingerprint 10 growing () ⟨["a"]⟩ = 2 := by decide +kernel
  have hfree' : CollisionFree .lines (FixLoop.trace growing () ⟨["a"]⟩) 2 := by decide +kernel
  have hcycle' : (run Shape.lines.fingerprint 10 growing () ⟨["a"]⟩).result = .ok (.cycle 2) := by
    decide +kernel
  have hproper : (run Shape.lines.fingerprint 10 growing () ⟨["a"]⟩ :
      Looped Unit Empty Lines).content.Proper := by decide +kernel
  rw [← hcalls] at hfree
  rw [← hcalls'] at hfree'
  obtain ⟨-, -, htext⟩ := (run_returns_on_cycle 10 2 ()).1 swapping "a" hfree hcycle
  obtain ⟨-, -, -, hlines⟩ := (run_returns_on_cycle 10 2 ()).2 growing ⟨["a"]⟩ hfree' hcycle'
  rw [hcalls] at htext
  rw [hcalls'] at hlines
  exact ⟨hfree, hcycle, htext, hfree', hcycle', hlines hproper (by decide)⟩

/-- A line with a newline gives way to two lines, and the loop takes them for the one. -/
theorem cycle_without_return :
    let split (_ : Unit) (_ : Lines) : Stepped Unit Empty Lines := ⟨.ok true, ⟨["a", "b"]⟩, ()⟩
    let start : Lines := ⟨["a\nb"]⟩
    let done : Looped Unit Empty Lines := run Shape.lines.fingerprint 10 split () start
    CollisionFree .lines (FixLoop.trace split () start)
      (calls Shape.lines.fingerprint 10 split () start) ∧
    done.result = .ok (.cycle 1) ∧ calls Shape.lines.fingerprint 10 split () start = 1 ∧
    done.content ≠ start := by
  dsimp only
  refine ⟨?_, ?_, ?_, ?_⟩ <;> decide +kernel

end FixLoop

end Emend

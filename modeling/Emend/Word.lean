
/-!
# Words

Offsets and lengths are natural numbers below `Word.bound`. Where a length takes part in signed
arithmetic it is read in two's complement (`signed`), so a length below `Word.half` counts as
itself and a larger one as a negative number. What such arithmetic comes to is a signed word again
(`wrap`). Moving an offset (`moved?`) is refused when the result is no word.

## Lemmas

`wrap_eq_self` says that a signed word stays as it is, and `wrap_wrap_add` that a sum may wrap round
early or late. `signed_of_lt` says when a word counts as itself; `moved?_eq_some_iff` is the law of
moving.
-/

namespace Emend.Word

/-- Words are below this bound. -/
def bound : Nat := 0x10000000000000000

/-- From here on a word read as a signed number is negative. -/
def half : Nat := 0x8000000000000000

/-- Is the number a signed word? -/
def IsSigned (n : Int) : Prop := -half ≤ n ∧ n < half

instance (n : Int) : Decidable (IsSigned n) := inferInstanceAs (Decidable (_ ∧ _))

/-- The signed word that a number comes to in two's complement. -/
def wrap (n : Int) : Int := Int.bmod n bound

/-- A word read in two's complement. -/
def signed (n : Nat) : Int := wrap n

/-- The offset `n` moved by `shift`, if that is a word. -/
def moved? (n : Nat) (shift : Int) : Option Nat :=
  if 0 ≤ n + shift ∧ n + shift < bound then some (n + shift).toNat else none

theorem wrap_eq_self {n : Int} (h : IsSigned n) : wrap n = n := by
  unfold IsSigned half at h
  unfold wrap bound
  rw [Int.bmod_eq_of_le] <;> omega

theorem isSigned_wrap (n : Int) : IsSigned (wrap n) := by
  have hbound : 0 < bound := by decide
  have hle : -((bound : Int) / 2) ≤ wrap n := Int.le_bmod hbound
  have hlt : wrap n < ((bound : Int) + 1) / 2 := Int.bmod_lt hbound
  unfold bound at hle hlt
  unfold IsSigned half
  omega

theorem wrap_wrap_add (m n : Int) : wrap (wrap m + n) = wrap (m + n) := Int.bmod_add_bmod

theorem signed_of_lt {n : Nat} (h : n < half) : signed n = n := by
  apply wrap_eq_self
  unfold IsSigned
  omega

theorem moved?_eq_some_iff {n r : Nat} {shift : Int} :
    moved? n shift = some r ↔ (r : Int) = n + shift ∧ r < bound := by
  unfold moved?
  split
  · next h =>
    simp only [Option.some.injEq]
    omega
  · next h =>
    simp only [reduceCtorEq, false_iff, not_and, Nat.not_lt]
    intro hr
    omega

end Emend.Word

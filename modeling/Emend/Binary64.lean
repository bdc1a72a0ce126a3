/-!
# Finite binary64 numbers

A number is a sign, a mantissa below `2 ^ 53` and an exponent of two; the exponent is at least
`-1074`, and it is `-1074` unless the mantissa fills all 53 bits. `ofDecimal?` reads a decimal,
rounding to the nearest number and a tie to the even mantissa, in exact natural arithmetic.
-/

namespace Emend

/-- The number `mantissa * 2 ^ exponent`, negated if `negative`. -/
structure Binary64 where
  negative : Bool
  mantissa : Nat
  exponent : Int
  deriving DecidableEq

namespace Binary64

/-- The least exponent of two. -/
def leastExponent : Int := -1074

/-- The greatest exponent of two. -/
def greatestExponent : Int := 971

/-- The least mantissa that fills all bits. -/
def fullMantissa : Nat := 0x10000000000000

/-- Mantissas are below this bound. -/
def mantissaBound : Nat := 0x20000000000000

/-- Zero of either sign. -/
def zero (negative : Bool) : Binary64 := ⟨negative, 0, leastExponent⟩

/-- `num / den` divided by `2 ^ q`, as a fraction again. -/
def scaleDown (num den : Nat) (q : Int) : Nat × Nat :=
  if 0 ≤ q then (num, den * Nat.pow 2 q.toNat) else (num * Nat.pow 2 (-q).toNat, den)

/-- The natural number nearest to `num / den`; a tie goes to the even one. -/
def roundDiv (num den : Nat) : Nat :=
  let q := num / den
  let r := num % den
  if 2 * r < den ∨ (2 * r = den ∧ q % 2 = 0) then q else q + 1

/-- The number nearest to `num / den`, none if it is too large. -/
def ofRatio? (negative : Bool) (num den : Nat) : Option Binary64 :=
  let guess : Int := (Nat.log2 num : Int) - Nat.log2 den - 52
  let (n, d) := scaleDown num den guess
  let exponent := max leastExponent (if n < fullMantissa * d then guess - 1 else guess)
  let (n, d) := scaleDown num den exponent
  let mantissa := roundDiv n d
  let (mantissa, exponent) :=
    if mantissa = mantissaBound then (fullMantissa, exponent + 1) else (mantissa, exponent)
  if greatestExponent < exponent then none else some ⟨negative, mantissa, exponent⟩

/-- The number nearest to `digits * 10 ^ exp`, none if it is too large. Decimals far outside the
range are settled by their size alone. -/
def ofDecimal? (negative : Bool) (digits : Nat) (exp : Int) : Option Binary64 :=
  let size : Int := (Nat.toDigits 10 digits).length
  if digits = 0 ∨ size + exp < -330 then some (zero negative)
  else if 310 < size + exp then none
  else if 0 ≤ exp then ofRatio? negative (digits * Nat.pow 10 exp.toNat) 1
  else ofRatio? negative digits (Nat.pow 10 (-exp).toNat)

end Binary64

end Emend

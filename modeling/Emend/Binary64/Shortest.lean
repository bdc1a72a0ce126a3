import Emend.Binary64

/-!
# Shortest decimal text

The fewest digits that read back as the same number, and of those the nearest to it, a tie going
to the even digit. A decimal reads back exactly if it lies in the interval of reals that round to
the number, whose ends count if the mantissa is even. `shortest` tries the grids of 1, 2, … 17
digits and on each the two neighbours of the number. `layout` says how the digits are written.
-/

namespace Emend.Binary64

/-- The decimal `digits * 10 ^ exp`. -/
structure Decimal where
  digits : Nat
  exp : Int
  deriving DecidableEq

/-- The reals that round to a number, as the fractions `low / den` and `high / den` about
`mid / den`. -/
structure Interval where
  low : Nat
  mid : Nat
  high : Nat
  den : Nat
  closed : Bool

/-- The interval of the number's size. Below a power of two the gap is half as wide. -/
def interval (x : Binary64) : Interval :=
  let m := x.mantissa
  let below := if m = fullMantissa ∧ leastExponent < x.exponent then 1 else 2
  let scale := x.exponent - 2
  let up := Nat.pow 2 scale.toNat
  ⟨(4 * m - below) * up, 4 * m * up, (4 * m + 2) * up, Nat.pow 2 (-scale).toNat, m % 2 = 0⟩

/-- Does `point * 10 ^ exp` lie in the interval? -/
def Interval.contains (i : Interval) (point : Nat) (exp : Int) : Bool :=
  let p := point * i.den * Nat.pow 10 exp.toNat
  let unit := Nat.pow 10 (-exp).toNat
  if i.closed then i.low * unit ≤ p ∧ p ≤ i.high * unit
  else i.low * unit < p ∧ p < i.high * unit

/-- The place of the first digit of `num / den`: it lies between `10 ^ (place - 1)` and
`10 ^ place`. -/
def place (num den : Nat) : Int :=
  if den ≤ num then (Nat.toDigits 10 (num / den)).length
  else 1 - ((List.range 400).takeWhile fun j => num * Nat.pow 10 j < den).length

/-- The hit on the grid `10 ^ exp` next to the number, the nearer one if there are two and the
even one if they are equally near. -/
def Interval.hit? (i : Interval) (exp : Int) : Option Decimal :=
  let num := i.mid * Nat.pow 10 (-exp).toNat
  let den := i.den * Nat.pow 10 exp.toNat
  let low := num / den
  let high := if num % den = 0 then low else low + 1
  match i.contains low exp, i.contains high exp with
  | true, true => some ⟨roundDiv num den, exp⟩
  | true, false => some ⟨low, exp⟩
  | false, true => some ⟨high, exp⟩
  | false, false => none

/-- The shortest decimal that reads back as the number's size. -/
def shortest (x : Binary64) : Decimal :=
  if x.mantissa = 0 then ⟨0, 0⟩
  else
    let i := interval x
    let top := place i.mid i.den
    ((List.range 17).findSome? fun (n : Nat) => i.hit? (top - (n + 1))).getD ⟨0, 0⟩

/-- How the digits of a number are written. -/
structure Layout where
  /-- Positional notation up to this many digits before the point. -/
  greatestPlace : Int
  /-- Positional notation while fewer than this many zeros follow the point. -/
  zeros : Int
  /-- The mark before the exponent when it is positive. -/
  positiveMark : String
  /-- The mark before the exponent when it is negative. -/
  negativeMark : String

/-- Numbers are positional below `10 ^ 16` and always show a point there; larger ones have a
signed exponent. -/
def layout : Layout := ⟨16, 5, "e+", "e-"⟩

/-- The digits of a decimal as written, without sign and without zeros at their end. -/
def Decimal.render (l : Layout) (d : Decimal) : String :=
  let written := Nat.toDigits 10 d.digits
  let point : Int := written.length + d.exp
  let digits := (written.reverse.dropWhile (· == '0')).reverse
  if 0 < point ∧ point ≤ l.greatestPlace then
    let whole := digits.take point.toNat ++ List.replicate (point.toNat - digits.length) '0'
    let fraction := digits.drop point.toNat
    String.ofList (whole ++ '.' :: (if fraction.isEmpty then ['0'] else fraction))
  else if -l.zeros < point ∧ point ≤ 0 then
    String.ofList ('0' :: '.' :: List.replicate (-point).toNat '0' ++ digits)
  else
    let head := digits.take 1 ++ (if digits.length ≤ 1 then [] else '.' :: digits.drop 1)
    let exponent := point - 1
    String.ofList head ++ (if 0 ≤ exponent then l.positiveMark else l.negativeMark)
      ++ toString exponent.natAbs

/-- The text of a number. -/
def render (x : Binary64) : String :=
  (if x.negative then "-" else "") ++
    (if x.mantissa = 0 then "0.0" else x.shortest.render layout)

end Emend.Binary64

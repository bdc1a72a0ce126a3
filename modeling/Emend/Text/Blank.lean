/-!
# White space

The characters with the White_Space property, as ranges of code points.
-/

namespace Emend.Text

/-- Is `n` in one of the ranges? Both ends of a range belong to it. -/
def inRanges (ranges : List (Nat × Nat)) (n : Nat) : Bool :=
  ranges.any fun r => r.1 ≤ n && n ≤ r.2

/-- The ranges of white space. -/
def blankRanges : List (Nat × Nat) := [
  (0x9, 0xd), (0x20, 0x20), (0x85, 0x85), (0xa0, 0xa0), (0x1680, 0x1680), (0x2000, 0x200a),
  (0x2028, 0x2029), (0x202f, 0x202f), (0x205f, 0x205f), (0x3000, 0x3000)]

/-- Is `c` white space? -/
def isBlank (c : Char) : Bool := inRanges blankRanges c.toNat

example : "\t\n\x0b\r \u0085\u2028\u3000".toList.all isBlank = true := by decide

example : "a\u200b\ufeff".toList.any isBlank = false := by decide

end Emend.Text

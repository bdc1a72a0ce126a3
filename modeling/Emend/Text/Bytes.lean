import Emend.Units

/-!
# Bytes of text

The units of a text are its characters, each with the bytes of its UTF-8 form.
-/

namespace Emend.Text

/-- The number of bytes of a text. -/
def size (cs : List Char) : Nat := Units.size Char.utf8Size cs

/-- The characters before and behind the byte `offset`, if it falls between two of them. -/
def cut? (cs : List Char) (offset : Nat) : Option (List Char × List Char) :=
  Units.cut? Char.utf8Size cs offset

theorem cut?_eq_some_iff {cs p q : List Char} {n : Nat} :
    cut? cs n = some (p, q) ↔ cs = p ++ q ∧ size p = n :=
  Units.cut?_eq_some_iff Char.utf8Size_pos

end Emend.Text

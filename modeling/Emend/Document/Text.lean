import Emend.Document
import Emend.Text.Bytes

/-!
# Texts as documents

The units of a text are the bytes of its UTF-8 form. Its boundaries are the offsets between two
characters and at both ends.
-/

namespace Emend

namespace Text

/-- Does `offset` lie between two characters of `text`, or at an end? -/
def isBoundary (text : String) (offset : Nat) : Bool := (cut? text.toList offset).isSome

/-- `text` with the bytes from `start` to `stop` replaced by `payload`. -/
def splice (text : String) (start stop : Nat) (payload : String) : Except SpliceError String :=
  match Units.splice? Char.utf8Size text.toList start stop payload.toList with
  | some chars => .ok (String.ofList chars)
  | none => .error (.outOfBounds start stop text.utf8ByteSize)

end Text

/-- Texts, edited by bytes. -/
def Shape.text : Shape where
  Doc := String
  Payload := String
  size := String.utf8ByteSize
  payloadSize := String.utf8ByteSize
  isBoundary := Text.isBoundary
  splice := Text.splice
  content := String.toUTF8

end Emend

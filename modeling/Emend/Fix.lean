import Emend.Span

/-!
# Fixes

A fix replaces the units of a span by a payload. Its origin is the name under which it was
submitted, usually a rule's. A fix whose span starts where it stops is an insertion.
-/

namespace Emend

/-- A proposed replacement. -/
structure Fix (P : Type) where
  span : Span
  payload : P
  origin : String
  deriving DecidableEq

namespace Fix

variable {P : Type}

/-- The fix that puts `payload` at `offset`. -/
def insert (offset : Nat) (payload : P) (origin : String) : Fix P :=
  ⟨.empty offset, payload, origin⟩

/-- The fix that removes the bytes of `span`. -/
def delete (span : Span) (origin : String) : Fix String := ⟨span, "", origin⟩

/-- The fix that removes the lines of `span`. -/
def deleteLines (span : Span) (origin : String) : Fix (List String) := ⟨span, [], origin⟩

/-- Does the fix replace nothing? An inverted span is no insertion. -/
def isInsertion (fix : Fix P) : Bool := fix.span.start == fix.span.stop

/-- By how much a fix lengthens the document, in signed words. -/
def growth (payloadSize : P → Nat) (fix : Fix P) : Int :=
  Word.wrap (Word.signed (payloadSize fix.payload) - Word.signed fix.span.length)

instance [Ord P] : Ord (Fix P) where
  compare a b := (compare a.span b.span).then
    ((compare a.payload b.payload).then (compare a.origin b.origin))

instance [ToJson P] : ToJson (Fix P) where
  toJson fix := .object
    [("origin", toJson fix.origin), ("payload", toJson fix.payload), ("span", toJson fix.span)]

instance [FromJson P] : FromJson (Fix P) where
  fromJson := decodeStruct "Fix"
    (fun members => do
      checkMembers [("span", .of Span), ("payload", .of P), ("origin", .of String)] members
      return ⟨← required "span" members, ← required "payload" members,
        ← required "origin" members⟩)
    (do
      let expected := "struct Fix with 3 elements"
      return ⟨← Items.required expected, ← Items.required expected, ← Items.required expected⟩)

end Fix

end Emend

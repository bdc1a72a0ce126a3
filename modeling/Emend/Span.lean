import Emend.Json.Decode

/-!
# Spans

A half-open range of offsets. A span may be inverted (`stop < start`); it then covers nothing.
Two spans overlap if each starts before the other stops, except that two spans that cover
nothing never do.
-/

namespace Emend

/-- The offsets from `start` up to but not including `stop`. -/
structure Span where
  start : Nat
  stop : Nat
  deriving DecidableEq, Inhabited

namespace Span

/-- The span at `offset` that covers nothing. -/
def empty (offset : Nat) : Span := ⟨offset, offset⟩

/-- A span is valid if it is not inverted. -/
def isValid (s : Span) : Bool := s.start ≤ s.stop

/-- How many units a span covers. -/
def length (s : Span) : Nat := s.stop - s.start

/-- Does the span cover nothing? -/
def isEmpty (s : Span) : Bool := s.stop ≤ s.start

/-- Do the spans share a unit, or does one lie strictly inside the other? -/
def overlaps (s t : Span) : Bool :=
  !(s.isEmpty && t.isEmpty) && (s.start < t.stop && t.start < s.stop)

/-- The offsets of a span are words. -/
def InRange (s : Span) : Prop := s.start < Word.bound ∧ s.stop < Word.bound

/-- The span as messages show it. -/
def describe (s : Span) : String :=
  "Span \x7b start: " ++ toString s.start ++ ", end: " ++ toString s.stop ++ " \x7d"

/-- Spans are ordered by their start, then by their stop. -/
instance : Ord Span where
  compare s t := (compare s.start t.start).then (compare s.stop t.stop)

instance : ToJson Span where
  toJson s := .object [("end", toJson s.stop), ("start", toJson s.start)]

instance : FromJson Span where
  fromJson := decodeStruct "Span"
    (fun members => do
      checkMembers [("start", .of Nat), ("end", .of Nat)] members
      return ⟨← required "start" members, ← required "end" members⟩)
    (do
      let expected := "struct Span with 2 elements"
      return ⟨← Items.required expected, ← Items.required expected⟩)

end Span

end Emend

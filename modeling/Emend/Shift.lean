import Emend.Error.Fixer

/-!
# The shift of a document under edits

While the fixes of a batch are spliced in from the left, what lies to the right moves by the sum
of their growths. A `Shift` is that sum, kept in a signed word; it takes a span of the document as
it was to the same units of the document as it is.

## Lemmas

`locate_eq_ok_iff` says where a span lies, and `locate_eq_error_iff` that it fails only for want of
such a place.
-/

namespace Emend

/-- By how much the units behind the edits have moved. -/
structure Shift where
  delta : Int
  deriving DecidableEq, Inhabited

namespace Shift

/-- No edit yet. -/
def zero : Shift := ⟨0⟩

/-- Where `span` lies now. -/
def locate (shift : Shift) (span : Span) : Except FixerError Span :=
  match Word.moved? span.start shift.delta, Word.moved? span.stop shift.delta with
  | some start, some stop => .ok ⟨start, stop⟩
  | _, _ => .error (.offsetOverflow span shift.delta)

/-- The shift after `removed` units have given way to `inserted` ones, both counts read as signed
words. The difference and the sum wrap round where they leave the signed words. -/
def record (shift : Shift) (removed inserted : Nat) : Shift :=
  ⟨Word.wrap (shift.delta + Word.wrap (Word.signed inserted - Word.signed removed))⟩

/-! ## Lemmas -/

theorem locate_eq_ok_iff {shift : Shift} {span range : Span} :
    shift.locate span = .ok range ↔
      (range.start : Int) = span.start + shift.delta ∧
        (range.stop : Int) = span.stop + shift.delta ∧ range.InRange := by
  obtain ⟨start, stop⟩ := range
  have hboth : shift.locate span = .ok ⟨start, stop⟩ ↔
      Word.moved? span.start shift.delta = some start ∧
        Word.moved? span.stop shift.delta = some stop := by
    unfold locate
    cases Word.moved? span.start shift.delta <;> cases Word.moved? span.stop shift.delta <;> simp
  rw [hboth, Word.moved?_eq_some_iff, Word.moved?_eq_some_iff, Span.InRange]
  constructor
  · rintro ⟨⟨hstart, hstart'⟩, hstop, hstop'⟩
    exact ⟨hstart, hstop, hstart', hstop'⟩
  · rintro ⟨hstart, hstop, hstart', hstop'⟩
    exact ⟨⟨hstart, hstart'⟩, hstop, hstop'⟩

theorem locate_eq_error_iff {shift : Shift} {span : Span} {e : FixerError} :
    shift.locate span = .error e ↔
      e = .offsetOverflow span shift.delta ∧ ∀ range, shift.locate span ≠ .ok range := by
  unfold locate
  split
  · simp
  · simp [eq_comm]

end Shift

end Emend

import Emend.Document
import Emend.Text.Pieces
import Emend.Units

/-!
# Line lists as documents

The units are lines. A text is split at every `\n`, so a text with `n` newlines has `n + 1` lines
and a final newline leaves an empty last line; joining the lines with `\n` gives the text back.
What else ends a line elsewhere, such as `\r`, belongs to the line.

## Lemmas

`toText_ofText` is the way back to the text; `ofText_ne_nil` and `newline_notMem_of_mem_ofText`
describe the line lists that come from a text, and `ofText_toText` says that these are all. Of two
such lists the texts differ (`toText_inj`).
-/

namespace Emend

/-- The lines of a file. -/
structure Lines where
  toList : List String
  deriving DecidableEq, Inhabited

namespace Lines

/-- The lines of `text`. -/
def ofText (text : String) : Lines := ⟨(Text.pieces '\n' text.toList).map String.ofList⟩

/-- The lines joined with newlines. -/
def toText (lines : Lines) : String :=
  String.ofList (Text.joinPieces '\n' (lines.toList.map String.toList))

/-- How many lines there are. -/
def size (lines : Lines) : Nat := lines.toList.length

/-- Lines may be cut at every offset up to their number. -/
def isBoundary (lines : Lines) (offset : Nat) : Bool := offset ≤ lines.size

/-- `lines` with those from `start` to `stop` replaced by `payload`. -/
def splice (lines : Lines) (start stop : Nat) (payload : List String) :
    Except SpliceError Lines :=
  match Units.splice? (fun _ => 1) lines.toList start stop payload with
  | some lines => .ok ⟨lines⟩
  | none => .error (.outOfBounds start stop lines.size)

/-- There is a line, and no line contains a newline. -/
def Proper (lines : Lines) : Prop := lines.toList ≠ [] ∧ ∀ line ∈ lines.toList, '\n' ∉ line.toList

instance (lines : Lines) : Decidable lines.Proper :=
  inferInstanceAs (Decidable (_ ∧ ∀ line ∈ lines.toList, '\n' ∉ line.toList))

instance : ToJson Lines := ⟨fun lines => toJson lines.toList⟩

instance : FromJson Lines := ⟨fun value => do return ⟨← fromJson value⟩, none⟩

/-! ## Lemmas -/

theorem toText_ofText (text : String) : (ofText text).toText = text := by
  simp [ofText, toText]

theorem ofText_ne_nil (text : String) : (ofText text).toList ≠ [] := by
  simp [ofText, Text.pieces_ne_nil]

theorem newline_notMem_of_mem_ofText {text line : String} (h : line ∈ (ofText text).toList) :
    '\n' ∉ line.toList := by
  obtain ⟨piece, hp, rfl⟩ := List.mem_map.1 h
  simpa using Text.notMem_of_mem_pieces hp

theorem ofText_toText {lines : Lines} (h : lines.Proper) : ofText lines.toText = lines := by
  obtain ⟨hne, hlines⟩ := h
  have hpieces : ∀ piece ∈ lines.toList.map String.toList, '\n' ∉ piece := by
    intro piece hpiece
    obtain ⟨line, hline, rfl⟩ := List.mem_map.1 hpiece
    exact hlines line hline
  rw [ofText, toText, String.toList_ofList, Text.pieces_joinPieces (by simpa using hne) hpieces]
  simp

theorem toText_inj {lines lines' : Lines} (h : lines.Proper) (h' : lines'.Proper)
    (heq : lines.toText = lines'.toText) : lines = lines' := by
  rw [← ofText_toText h, heq, ofText_toText h']

end Lines

/-- Line lists, edited by lines. Their text stands for them when they are compared. -/
def Shape.lines : Shape where
  Doc := Lines
  Payload := List String
  size := Lines.size
  payloadSize := List.length
  isBoundary := Lines.isBoundary
  splice := Lines.splice
  content lines := lines.toText.toUTF8

end Emend

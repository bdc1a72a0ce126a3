import Emend.Document.Lines
import Emend.Document.Text

/-!
# Documents as sequences of units

A kind of document is sequential if a document is the list of its units and splicing replaces the
units between two boundaries (`splice_spec`). What stands behind the replaced units keeps its
boundaries, at the offset to which it has moved.

Texts are the sequences of their bytes and line lists those of their lines. A text can only be cut
between two characters; there its characters and its bytes fall apart at the same place
(`Units.exists_splice?`).
-/

namespace Emend

/-- A kind of document with its documents as lists of units. -/
class Shape.Sequential (s : Shape) where
  Unit : Type
  units : s.Doc → List Unit
  payloadUnits : s.Payload → List Unit
  units_inj : ∀ {doc doc' : s.Doc}, units doc = units doc' → doc = doc'
  length_units : ∀ doc : s.Doc, (units doc).length = s.size doc
  length_payloadUnits : ∀ payload : s.Payload,
    (payloadUnits payload).length = s.payloadSize payload
  splice_spec : ∀ {doc : s.Doc} {start stop : Nat} (payload : s.Payload), start ≤ stop →
    s.isBoundary doc start → s.isBoundary doc stop →
    ∃ next, s.splice doc start stop payload = .ok next ∧
      units next = (units doc).take start ++ payloadUnits payload ++ (units doc).drop stop ∧
      ∀ offset, s.isBoundary next (start + s.payloadSize payload + offset) =
        s.isBoundary doc (stop + offset)

namespace Text

/-- The bytes of a text. -/
def bytes (text : String) : List UInt8 := text.toUTF8.data.toList

theorem bytes_ofList (cs : List Char) :
    bytes (String.ofList cs) = cs.flatMap String.utf8EncodeChar := by
  show (String.ofList cs).toByteArray.data.toList = _
  rw [String.toByteArray_ofList, List.utf8Encode]
  simp

theorem bytes_eq_flatMap (text : String) :
    bytes text = text.toList.flatMap String.utf8EncodeChar := by
  rw [← bytes_ofList, String.ofList_toList]

theorem length_flatMap_utf8EncodeChar (cs : List Char) :
    (cs.flatMap String.utf8EncodeChar).length = Units.size Char.utf8Size cs := by
  induction cs with
  | nil => rfl
  | cons c cs ih => rw [List.flatMap_cons, List.length_append, String.length_utf8EncodeChar, ih,
      Units.size_cons]

theorem bytes_inj {text text' : String} (h : bytes text = bytes text') : text = text' := by
  apply String.toByteArray_inj.1
  apply ByteArray.ext
  exact Array.toList_inj.1 h

theorem length_bytes (text : String) : (bytes text).length = text.utf8ByteSize := rfl

theorem utf8ByteSize_eq_size (text : String) :
    text.utf8ByteSize = Units.size Char.utf8Size text.toList := by
  rw [← length_bytes, bytes_eq_flatMap, length_flatMap_utf8EncodeChar]

/-- Replacing whole characters replaces their bytes. -/
theorem bytes_splice {text : String} {p m q : List Char} (h : text.toList = p ++ m ++ q)
    (payload : String) :
    bytes (String.ofList (p ++ payload.toList ++ q)) =
      (bytes text).take (size p) ++ bytes payload ++ (bytes text).drop (size (p ++ m)) := by
  have hbytes : bytes text = p.flatMap String.utf8EncodeChar ++
      (m.flatMap String.utf8EncodeChar ++ q.flatMap String.utf8EncodeChar) := by
    rw [bytes_eq_flatMap, h, List.flatMap_append, List.flatMap_append, List.append_assoc]
  have htake : (bytes text).take (size p) = p.flatMap String.utf8EncodeChar := by
    rw [hbytes]
    exact List.take_left' (length_flatMap_utf8EncodeChar p)
  have hdrop : (bytes text).drop (size (p ++ m)) = q.flatMap String.utf8EncodeChar := by
    rw [hbytes, ← List.append_assoc, ← List.flatMap_append]
    exact List.drop_left' (length_flatMap_utf8EncodeChar (p ++ m))
  rw [htake, hdrop, bytes_ofList, List.flatMap_append, List.flatMap_append,
    ← bytes_eq_flatMap]

theorem splice_spec {text : String} {start stop : Nat} (payload : String) (h : start ≤ stop)
    (hstart : isBoundary text start) (hstop : isBoundary text stop) :
    ∃ next, splice text start stop payload = .ok next ∧
      bytes next = (bytes text).take start ++ bytes payload ++ (bytes text).drop stop ∧
      ∀ offset, isBoundary next (start + payload.utf8ByteSize + offset) =
        isBoundary text (stop + offset) := by
  obtain ⟨p, m, q, htext, rfl, rfl, hsplice⟩ :=
    Units.exists_splice? Char.utf8Size_pos h hstart hstop payload.toList
  refine ⟨String.ofList (p ++ payload.toList ++ q), ?_, bytes_splice htext payload,
    fun offset => ?_⟩
  · rw [splice, hsplice]
  · rw [utf8ByteSize_eq_size, ← Units.size_append]
    unfold isBoundary cut?
    rw [String.toList_ofList, htext, Units.cut?_append Char.utf8Size_pos,
      Units.cut?_append Char.utf8Size_pos, Option.isSome_map, Option.isSome_map]

instance : Shape.Sequential .text where
  Unit := UInt8
  units := bytes
  payloadUnits := bytes
  units_inj := bytes_inj
  length_units := length_bytes
  length_payloadUnits := length_bytes
  splice_spec := splice_spec

end Text

namespace Lines

theorem size_one_eq_length (lines : List String) :
    Units.size (fun _ => 1) lines = lines.length := by
  induction lines with
  | nil => rfl
  | cons line lines ih =>
    rw [Units.size_cons, ih, List.length_cons]
    omega

/-- Between lines cuts can be made everywhere. -/
theorem isSome_cut?_of_isBoundary {lines : Lines} {offset : Nat}
    (h : lines.isBoundary offset) : (Units.cut? (fun _ => 1) lines.toList offset).isSome := by
  refine (Units.isSome_cut?_iff fun _ => Nat.one_pos).2
    ⟨lines.toList.take offset, lines.toList.drop offset, (List.take_append_drop _ _).symm, ?_⟩
  rw [size_one_eq_length, List.length_take]
  exact Nat.min_eq_left (of_decide_eq_true h)

theorem splice_spec {lines : Lines} {start stop : Nat} (payload : List String) (h : start ≤ stop)
    (hstart : lines.isBoundary start) (hstop : lines.isBoundary stop) :
    ∃ next, lines.splice start stop payload = .ok next ∧
      next.toList = lines.toList.take start ++ payload ++ lines.toList.drop stop ∧
      ∀ offset, next.isBoundary (start + payload.length + offset) =
        lines.isBoundary (stop + offset) := by
  obtain ⟨p, m, q, hlines, rfl, rfl, hsplice⟩ := Units.exists_splice? (fun _ => Nat.one_pos) h
    (isSome_cut?_of_isBoundary hstart) (isSome_cut?_of_isBoundary hstop) payload
  refine ⟨⟨p ++ payload ++ q⟩, ?_, ?_, fun offset => ?_⟩
  · rw [splice, hsplice]
  · rw [hlines, size_one_eq_length, size_one_eq_length, List.drop_left' rfl, List.append_assoc p m,
      List.take_left' rfl]
  · simp only [isBoundary, size, hlines, size_one_eq_length, List.length_append]
    apply decide_eq_decide.2
    omega

instance : Shape.Sequential .lines where
  Unit := String
  units := Lines.toList
  payloadUnits := id
  units_inj := by
    rintro ⟨lines⟩ ⟨lines'⟩ h
    exact congrArg Lines.mk h
  length_units _ := rfl
  length_payloadUnits _ := rfl
  splice_spec := splice_spec

end Lines

end Emend

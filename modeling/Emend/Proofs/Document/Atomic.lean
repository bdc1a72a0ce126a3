import Emend.Batch
import Emend.Proofs.Document.Sequential

/-!
# What splicing replaces

A document is made of atoms, which no cut goes through: a text of its characters, each as long as
its bytes, and a line list of its lines. Between two offsets something can be replaced exactly if
the atoms fall apart there (`splice_eq_ok_iff`), and these are the offsets that count as boundaries
and that the check of a batch lets through. The atoms in front of the range and those behind it
stay, and so do their boundaries (`isBoundary_in_front`, `isBoundary_behind`).
-/

namespace Emend

/-- A kind of document with its documents as lists of atoms. -/
class Shape.Atomic (s : Shape) where
  Atom : Type
  /-- How many units an atom takes. -/
  weight : Atom → Nat
  atoms : s.Doc → List Atom
  payloadAtoms : s.Payload → List Atom
  ofAtoms : List Atom → s.Doc
  weight_pos : ∀ atom, 0 < weight atom
  atoms_ofAtoms : ∀ list, atoms (ofAtoms list) = list
  size_atoms : ∀ doc, Units.size weight (atoms doc) = s.size doc
  size_payloadAtoms : ∀ payload, Units.size weight (payloadAtoms payload) = s.payloadSize payload
  isBoundary_eq : ∀ doc offset,
    s.isBoundary doc offset = (Units.cut? weight (atoms doc) offset).isSome
  splice_eq : ∀ doc start stop payload, s.splice doc start stop payload =
    match Units.splice? weight (atoms doc) start stop (payloadAtoms payload) with
    | some next => .ok (ofAtoms next)
    | none => .error (.outOfBounds start stop (s.size doc))

instance : Shape.Atomic .text where
  Atom := Char
  weight := Char.utf8Size
  atoms := String.toList
  payloadAtoms := String.toList
  ofAtoms := String.ofList
  weight_pos := Char.utf8Size_pos
  atoms_ofAtoms _ := String.toList_ofList
  size_atoms text := (Text.utf8ByteSize_eq_size text).symm
  size_payloadAtoms text := (Text.utf8ByteSize_eq_size text).symm
  isBoundary_eq _ _ := rfl
  splice_eq text start stop payload := by
    show Text.splice text start stop payload = _
    unfold Text.splice
    cases Units.splice? Char.utf8Size text.toList start stop payload.toList <;> rfl

theorem Lines.isBoundary_eq_isSome_cut? (lines : Lines) (offset : Nat) :
    lines.isBoundary offset = (Units.cut? (fun _ => 1) lines.toList offset).isSome := by
  apply Bool.eq_iff_iff.2
  constructor
  · exact isSome_cut?_of_isBoundary
  · intro h
    obtain ⟨p, q, hlines, rfl⟩ := (Units.isSome_cut?_iff fun _ => Nat.one_pos).1 h
    rw [isBoundary, size, hlines, size_one_eq_length, List.length_append, decide_eq_true_eq]
    exact Nat.le_add_right _ _

instance : Shape.Atomic .lines where
  Atom := String
  weight _ := 1
  atoms := Lines.toList
  payloadAtoms payload := payload
  ofAtoms := Lines.mk
  weight_pos _ := Nat.one_pos
  atoms_ofAtoms _ := rfl
  size_atoms lines := Lines.size_one_eq_length lines.toList
  size_payloadAtoms := Lines.size_one_eq_length
  isBoundary_eq := Lines.isBoundary_eq_isSome_cut?
  splice_eq lines start stop payload := by
    show Lines.splice lines start stop payload = _
    unfold Lines.splice
    cases Units.splice? (fun _ => 1) (Lines.toList lines) start stop payload <;> rfl

namespace Shape.Atomic

variable {s : Shape} [s.Atomic] {doc next : s.Doc} {start stop offset : Nat}
  {payload : s.Payload} {e : SpliceError}

/-! ## Where splicing succeeds -/

/-- Splicing succeeds where the atoms fall apart, and replaces what stands between. -/
theorem splice_eq_ok_iff : s.splice doc start stop payload = .ok next ↔
    ∃ p m q, atoms doc = p ++ m ++ q ∧ Units.size weight p = start ∧
      Units.size weight (p ++ m) = stop ∧ next = ofAtoms (p ++ payloadAtoms payload ++ q) := by
  have hok : s.splice doc start stop payload = .ok next ↔ ∃ list,
      Units.splice? weight (atoms doc) start stop (payloadAtoms payload) = some list ∧
        next = ofAtoms list := by
    rw [splice_eq]
    cases Units.splice? weight (atoms doc) start stop (payloadAtoms payload) <;> simp [eq_comm]
  simp only [hok, Units.splice?_eq_some_iff weight_pos]
  constructor
  · rintro ⟨list, ⟨p, m, q, hdoc, hstart, hstop, rfl⟩, rfl⟩
    exact ⟨p, m, q, hdoc, hstart, hstop, rfl⟩
  · rintro ⟨p, m, q, hdoc, hstart, hstop, rfl⟩
    exact ⟨_, ⟨p, m, q, hdoc, hstart, hstop, rfl⟩, rfl⟩

/-- It succeeds between two boundaries in order. Otherwise the error names the range and the length
of the document. -/
theorem splice_eq_error_iff : s.splice doc start stop payload = .error e ↔
    ¬ (start ≤ stop ∧ s.isBoundary doc start ∧ s.isBoundary doc stop) ∧
      e = .outOfBounds start stop (s.size doc) := by
  rw [isBoundary_eq, isBoundary_eq, splice_eq,
    ← Units.isSome_splice?_iff weight_pos (payloadAtoms payload)]
  cases Units.splice? weight (atoms doc) start stop (payloadAtoms payload) <;> simp [eq_comm]

theorem exists_splice_iff : (∃ next, s.splice doc start stop payload = .ok next) ↔
    start ≤ stop ∧ s.isBoundary doc start ∧ s.isBoundary doc stop := by
  rw [isBoundary_eq, isBoundary_eq, splice_eq,
    ← Units.isSome_splice?_iff weight_pos (payloadAtoms payload)]
  cases Units.splice? weight (atoms doc) start stop (payloadAtoms payload) <;> simp

/-! ## Boundaries -/

/-- Documents that begin with the same atoms have the same boundaries there. -/
theorem isBoundary_in_front {p q q' : List (Atom s)} (hdoc : atoms doc = p ++ q)
    (hnext : atoms next = p ++ q') (h : offset ≤ Units.size weight p) :
    s.isBoundary next offset = s.isBoundary doc offset := by
  rw [isBoundary_eq, isBoundary_eq, hdoc, hnext, Units.isSome_cut?_append weight_pos p q h,
    Units.isSome_cut?_append weight_pos p q' h]

/-- Documents that end with the same atoms have the same boundaries there. -/
theorem isBoundary_behind {p p' q : List (Atom s)} (hdoc : atoms doc = p ++ q)
    (hnext : atoms next = p' ++ q) (offset : Nat) :
    s.isBoundary next (Units.size weight p' + offset) =
      s.isBoundary doc (Units.size weight p + offset) := by
  rw [isBoundary_eq, isBoundary_eq, hdoc, hnext, Units.cut?_append weight_pos,
    Units.cut?_append weight_pos, Option.isSome_map, Option.isSome_map]

theorem stop_le_size_of_isBoundary (h : s.isBoundary doc stop) : stop ≤ s.size doc := by
  rw [isBoundary_eq, Units.isSome_cut?_iff weight_pos] at h
  obtain ⟨p, q, hdoc, rfl⟩ := h
  rw [← size_atoms, hdoc, Units.size_append]
  exact Nat.le_add_right _ _

/-- Splicing succeeds exactly between two boundaries in order, which is where the atoms fall apart
into those in front, those replaced and those behind. Then the payload stands between the first and
the last, and the boundaries up to the range and from its end on are what they were, the latter
where they have moved to. Otherwise the error names the range and the length. A batch lets a fix
through exactly if its payload can be spliced in. -/
theorem splice_exact (doc : s.Doc) (start stop : Nat) (payload : s.Payload) :
    ((∃ next, s.splice doc start stop payload = .ok next) ↔
      start ≤ stop ∧ s.isBoundary doc start ∧ s.isBoundary doc stop) ∧
    (∀ next, s.splice doc start stop payload = .ok next ↔
      ∃ p m q, atoms doc = p ++ m ++ q ∧ Units.size weight p = start ∧
        Units.size weight (p ++ m) = stop ∧ next = ofAtoms (p ++ payloadAtoms payload ++ q)) ∧
    (∀ next, s.splice doc start stop payload = .ok next →
      (∀ offset ≤ start, s.isBoundary doc offset ↔ s.isBoundary next offset) ∧
      ∀ offset ≥ stop, s.isBoundary doc offset ↔
        s.isBoundary next (offset + s.payloadSize payload - (stop - start))) ∧
    (∀ e, s.splice doc start stop payload = .error e ↔
      ¬ (start ≤ stop ∧ s.isBoundary doc start ∧ s.isBoundary doc stop) ∧
        e = .outOfBounds start stop (s.size doc)) ∧
    ∀ origin, Batch.fits s doc ⟨⟨start, stop⟩, payload, origin⟩ ↔
      ∃ next, s.splice doc start stop payload = .ok next := by
  refine ⟨exists_splice_iff, fun next => splice_eq_ok_iff, fun next h => ?_,
    fun e => splice_eq_error_iff, fun origin => ?_⟩
  · obtain ⟨p, m, q, hdoc, rfl, rfl, rfl⟩ := splice_eq_ok_iff.1 h
    have hnext := atoms_ofAtoms (s := s) (p ++ payloadAtoms payload ++ q)
    constructor
    · intro offset hoffset
      have hfront := hdoc.trans (List.append_assoc p m q)
      have hfront' := hnext.trans (List.append_assoc p (payloadAtoms payload) q)
      rw [isBoundary_in_front hfront hfront' hoffset]
    · intro offset hoffset
      obtain ⟨k, rfl⟩ := Nat.exists_eq_add_of_le hoffset
      have hmoved : Units.size weight (p ++ m) + k + s.payloadSize payload -
          (Units.size weight (p ++ m) - Units.size weight p) =
            Units.size weight (p ++ payloadAtoms payload) + k := by
        rw [Units.size_append, Units.size_append, size_payloadAtoms]
        omega
      rw [hmoved, isBoundary_behind hdoc hnext]
  · rw [exists_splice_iff, Batch.fits_iff]
    constructor
    · rintro ⟨hle, -, hstart, hstop⟩
      exact ⟨hle, hstart, hstop⟩
    · rintro ⟨hle, hstart, hstop⟩
      exact ⟨hle, stop_le_size_of_isBoundary hstop, hstart, hstop⟩

/-- A character of two bytes is replaced in a text, behind which stands one of three, and a line in
a line list. Between the bytes of a character nothing can be replaced. -/
theorem splice_exact_wide :
    Shape.text.splice "añ東b" 1 3 "é!" = .ok "aé!東b" ∧
    (∀ offset ≥ 3, Shape.text.isBoundary "añ東b" offset ↔
      Shape.text.isBoundary "aé!東b" (offset + 3 - 2)) ∧
    Shape.text.splice "añ東b" 2 3 "x" = .error (.outOfBounds 2 3 7) ∧
    Shape.lines.splice ⟨["a", "b"]⟩ 1 2 ["", "c"] = .ok ⟨["a", "", "c"]⟩ ∧
    (∀ offset ≤ 1, Shape.lines.isBoundary ⟨["a", "b"]⟩ offset ↔
      Shape.lines.isBoundary ⟨["a", "", "c"]⟩ offset) := by
  have htext : Shape.text.splice "añ東b" 1 3 "é!" = .ok "aé!東b" := rfl
  have hlines : Shape.lines.splice ⟨["a", "b"]⟩ 1 2 ["", "c"] = .ok ⟨["a", "", "c"]⟩ := rfl
  have hinside : Shape.text.isBoundary "añ東b" 2 = false := by decide
  obtain ⟨-, -, hbehind, -, -⟩ := splice_exact (s := .text) "añ東b" 1 3 "é!"
  obtain ⟨-, -, -, herror, -⟩ := splice_exact (s := .text) "añ東b" 2 3 "x"
  obtain ⟨-, -, hfront, -, -⟩ := splice_exact (s := .lines) ⟨["a", "b"]⟩ 1 2 ["", "c"]
  refine ⟨htext, (hbehind _ htext).2, (herror _).2 ⟨fun h => ?_, rfl⟩, hlines,
    (hfront _ hlines).1⟩
  rw [hinside] at h
  exact Bool.false_ne_true h.2.1

end Shape.Atomic

end Emend

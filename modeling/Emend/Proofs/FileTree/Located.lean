import Mathlib.Data.List.Induction
import Emend.FileTree

/-!
# The file at a path

A path that a file can be read from leads to its place (`Located`), through directories all the way
down (`Accessible.walk`). What is written to such a path goes to the same place
(`Located.target_eq`). The file there takes the new bytes, so that the path still leads to it and
reads them back (`Located.put`), and all other nodes stay as they are.
-/

namespace Emend

namespace FileTree

variable {tree : FileTree} {place last : Place} {bytes : ByteArray} {path : Path}
  {part : String} {parts : List String}

/-- All that a place lies in are directories. -/
def Accessible (tree : FileTree) (place : Place) : Prop :=
  ∀ names, names <+: place.names → names ≠ place.names →
    tree.node? ⟨place.anchor, names⟩ = some .directory

/-- The path leads to a file with these bytes, and the place is where it stands. -/
structure Located (tree : FileTree) (path : Path) (place : Place) (bytes : ByteArray) : Prop where
  checked : checkPath path = .ok ()
  walk_eq : tree.walk (.start path) path.parts = .ok place
  node_eq : tree.node? place = some (.file bytes)

/-! ## Places on the way -/

theorem node?_of_names_eq_nil (h : place.names = []) : tree.node? place = some .directory :=
  if_pos h

theorem names_ne_nil_of_file (h : tree.node? place = some (.file bytes)) : place.names ≠ [] := by
  intro hnil
  rw [node?_of_names_eq_nil hnil] at h
  cases h

theorem names_start (path : Path) : (Place.start path).names = [] := by
  unfold Place.start
  split <;> rfl

namespace Accessible

theorem of_names_eq_nil (h : place.names = []) : Accessible tree place := by
  intro names hbelow hne
  rw [h] at hbelow hne
  exact absurd (List.prefix_nil.1 hbelow) hne

theorem child (h : Accessible tree place) (hnode : tree.node? place = some .directory)
    (name : String) : Accessible tree (place.child name) := by
  intro names hbelow hne
  rcases List.prefix_concat_iff.1 hbelow with heq | habove
  · exact absurd heq hne
  · by_cases hsame : names = place.names
    · rw [hsame]
      exact hnode
    · exact h names habove hsame

theorem parent (h : Accessible tree place) : Accessible tree place.parent := by
  obtain ⟨anchor, names⟩ := place
  cases names with
  | nil => cases anchor <;> exact of_names_eq_nil rfl
  | cons name rest =>
    intro names hbelow hne
    refine h names (hbelow.trans (List.dropLast_prefix _)) fun heq => hne ?_
    subst heq
    exact hbelow.eq_of_length_le (by simp [Place.parent])

theorem node?_parent (h : Accessible tree place) : tree.node? place.parent = some .directory := by
  obtain ⟨anchor, names⟩ := place
  cases names with
  | nil => cases anchor <;> exact node?_of_names_eq_nil rfl
  | cons name rest =>
    refine h _ (List.dropLast_prefix _) fun heq => ?_
    have := congrArg List.length heq
    simp at this

end Accessible

/-! ## Ways -/

theorem walk_append (place : Place) (parts rest : List String) :
    tree.walk place (parts ++ rest) =
      (tree.walk place parts).bind fun next => tree.walk next rest := by
  induction parts generalizing place with
  | nil => rfl
  | cons part parts ih =>
    rw [List.cons_append, walk, walk]
    split
    · rfl
    · rfl
    · split
      · exact ih place
      · split
        · exact ih place.parent
        · split
          · rfl
          · exact ih _

theorem walk_concat_eq_ok (h : tree.walk place (parts ++ [part]) = .ok last) :
    ∃ directory, tree.walk place parts = .ok directory ∧ tree.walk directory [part] = .ok last := by
  rw [walk_append] at h
  cases hfirst : tree.walk place parts with
  | error e =>
    rw [hfirst] at h
    cases h
  | ok directory =>
    rw [hfirst] at h
    exact ⟨directory, rfl, h⟩

/-- A part of a path leads on from a directory only: it stays, goes up, or goes down to a name. -/
theorem of_walk_singleton (h : tree.walk place [part] = .ok last) :
    tree.node? place = some .directory ∧ (last = place ∨ last = place.parent ∨
      part ≠ "" ∧ part ≠ "." ∧ part ≠ ".." ∧ step place part = .ok last) := by
  rw [walk] at h
  split at h
  · cases h
  · cases h
  · next hnode =>
    refine ⟨hnode, ?_⟩
    split at h
    · cases h
      exact .inl rfl
    · next hstays =>
      split at h
      · cases h
        exact .inr (.inl rfl)
      · next hup =>
        split at h
        · cases h
        · next next hstep =>
          cases h
          rw [not_or] at hstays
          exact .inr (.inr ⟨hstays.1, hstays.2, hup, hstep⟩)

theorem eq_child_of_step {name : String} (h : step place name = .ok last) :
    last = place.child name := by
  unfold step at h
  split at h <;> cases h
  rfl

/-- Directories lie above whatever a way leads to. -/
theorem Accessible.walk (h : Accessible tree place) (hwalk : tree.walk place parts = .ok last) :
    Accessible tree last := by
  -- From the end, since it is the last part that leads on from a directory.
  induction parts using List.reverseRecOn generalizing last with
  | nil =>
    cases hwalk
    exact h
  | append_singleton parts part ih =>
    obtain ⟨directory, hfirst, hpart⟩ := walk_concat_eq_ok hwalk
    obtain ⟨hnode, rfl | rfl | ⟨-, -, -, hstep⟩⟩ := of_walk_singleton hpart
    · exact ih hfirst
    · exact (ih hfirst).parent
    · rw [eq_child_of_step hstep]
      exact (ih hfirst).child hnode part

/-- What stands in the place of a file is on no way. -/
theorem walk_put (hfile : tree.node? place = some (.file bytes)) (node : Node) {start : Place}
    (h : tree.walk start parts = .ok last) :
    (tree.put place node).walk start parts = .ok last := by
  induction parts using List.reverseRecOn generalizing last with
  | nil => exact h
  | append_singleton parts part ih =>
    obtain ⟨directory, hfirst, hpart⟩ := walk_concat_eq_ok h
    obtain ⟨hnode, -⟩ := of_walk_singleton hpart
    have hne : directory ≠ place := by
      rintro rfl
      rw [hfile] at hnode
      cases hnode
    have hnode' : (tree.put place node).node? directory = some .directory := by
      rw [node?_put tree (names_ne_nil_of_file hfile), if_neg hne, hnode]
    rw [walk_append, ih hfirst]
    show (tree.put place node).walk directory [part] = _
    rw [walk, hnode] at hpart
    rw [walk, hnode']
    exact hpart

/-! ## Reading and writing -/

theorem readBytes_eq_ok_iff :
    tree.readBytes path = .ok bytes ↔ ∃ place, Located tree path place bytes := by
  unfold readBytes
  constructor
  · intro h
    cases hchecked : checkPath path with
    | error e =>
      rw [hchecked] at h
      cases h
    | ok checked =>
      cases hwalk : tree.walk (.start path) path.parts with
      | error e =>
        rw [hchecked, hwalk] at h
        cases h
      | ok place =>
        rw [hchecked, hwalk] at h
        dsimp only [bind, Except.bind] at h
        split at h
        · cases h
        · cases h
        · next bytes' hnode =>
          cases h
          exact ⟨place, hchecked, hwalk, hnode⟩
  · rintro ⟨place, hchecked, hwalk, hnode⟩
    rw [hchecked, hwalk]
    dsimp only [bind, Except.bind]
    rw [hnode]
    rfl

theorem fromUTF8?_eq_some_iff {text : String} :
    String.fromUTF8? bytes = some text ↔ bytes = text.toUTF8 := by
  unfold String.fromUTF8?
  constructor
  · intro h
    split at h
    · cases h
      rfl
    · cases h
  · rintro rfl
    exact dif_pos text.isValidUTF8

theorem readText_eq_ok_iff {text : String} :
    tree.readText path = .ok text ↔ tree.readBytes path = .ok text.toUTF8 := by
  unfold readText
  cases tree.readBytes path with
  | error e =>
    constructor <;> intro h <;> cases h
  | ok bytes =>
    rw [Except.ok.injEq, ← fromUTF8?_eq_some_iff]
    dsimp only [bind, Except.bind]
    cases String.fromUTF8? bytes with
    | none => constructor <;> intro h <;> cases h
    | some read => simp [pure, Except.pure]

theorem exists_located {text : String} (h : tree.readText path = .ok text) :
    ∃ place, Located tree path place text.toUTF8 :=
  readBytes_eq_ok_iff.1 (readText_eq_ok_iff.1 h)

namespace Located

theorem readBytes_eq (h : Located tree path place bytes) : tree.readBytes path = .ok bytes :=
  readBytes_eq_ok_iff.2 ⟨place, h⟩

theorem readText_eq {text : String} (h : Located tree path place text.toUTF8) :
    tree.readText path = .ok text :=
  readText_eq_ok_iff.2 h.readBytes_eq

/-- The last part of a path to a file is a name in a directory that the others lead to. -/
theorem exists_last (h : Located tree path place bytes) : ∃ before name directory,
    path.parts = before ++ [name] ∧ name ≠ "" ∧ name ≠ "." ∧ name ≠ ".." ∧
      tree.walk (.start path) before = .ok directory ∧ tree.node? directory = some .directory ∧
        step directory name = .ok place := by
  have hwalk := h.walk_eq
  have hfile := h.node_eq
  have hstart : tree.Accessible (.start path) := .of_names_eq_nil (names_start path)
  rcases List.eq_nil_or_concat path.parts with hnil | ⟨before, name, hparts⟩
  · rw [hnil] at hwalk
    cases hwalk
    exact absurd (names_start path) (names_ne_nil_of_file hfile)
  · rw [List.concat_eq_append] at hparts
    rw [hparts] at hwalk
    obtain ⟨directory, hbefore, hname⟩ := walk_concat_eq_ok hwalk
    have haccessible := hstart.walk hbefore
    obtain ⟨hnode, rfl | rfl | ⟨hempty, hdot, hup, hstep⟩⟩ := of_walk_singleton hname
    · rw [hnode] at hfile
      cases hfile
    · rw [haccessible.node?_parent] at hfile
      cases hfile
    · exact ⟨before, name, directory, hparts, hempty, hdot, hup, hbefore, hnode, hstep⟩

/-- Writing to the path of a file puts a file in its place. -/
theorem target_eq (h : Located tree path place bytes) : tree.target path = .ok place := by
  obtain ⟨before, name, directory, hparts, hempty, hdot, hup, hbefore, hnode, hstep⟩ :=
    h.exists_last
  have hreverse : path.parts.reverse = name :: before.reverse := by
    rw [hparts, List.reverse_concat]
  -- The name is not empty, so that no separator stands behind it.
  have htrailing : (name :: before.reverse).takeWhile (· == "") = [] :=
    List.takeWhile_cons_of_neg (by simpa using hempty)
  unfold target
  rw [h.checked, hreverse, htrailing]
  simp only [List.length_nil, List.drop_zero, List.reverse_reverse, hbefore, bind, Except.bind,
    hnode, hdot, hup, List.isEmpty_nil, Bool.not_true, Bool.false_eq_true, or_false, if_false,
    hstep, h.node_eq, pure, Except.pure]

theorem writeBytes_eq (h : Located tree path place bytes) (new : ByteArray) :
    tree.writeBytes path new = .ok (tree.put place (.file new)) := by
  rw [writeBytes, h.target_eq]
  rfl

/-- The path still leads to the place when the file there has taken other bytes. -/
theorem put (h : Located tree path place bytes) (new : ByteArray) :
    Located (tree.put place (.file new)) path place new where
  checked := h.checked
  walk_eq := walk_put h.node_eq _ h.walk_eq
  node_eq := by rw [node?_put tree (names_ne_nil_of_file h.node_eq), if_pos rfl]

end Located

end FileTree

end Emend

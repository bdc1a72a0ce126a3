import Emend.Proofs.FileTree.Located

/-!
# Trees that differ in the bytes of files

Where a path leads depends only on what is a file and what is a directory (`SameLayout.walk_eq`).
A file that takes other bytes changes no layout (`sameLayout_overwrite`), so that all paths lead
where they did, and what is read at the paths that lead elsewhere is what it was
(`SameLayout.readBytes_eq`).
-/

namespace Emend

/-- Is there a directory? -/
def Node.isDirectory : Node → Bool
  | file _ => false
  | directory => true

namespace FileTree

variable {tree tree' tree'' : FileTree} {place : Place} {bytes : ByteArray} {path : Path}

/-- Files and directories stand in the same places of both trees. -/
def SameLayout (tree tree' : FileTree) : Prop :=
  ∀ place, (tree'.node? place).map Node.isDirectory = (tree.node? place).map Node.isDirectory

/-- The path leads to a file at the place. -/
def Names (tree : FileTree) (path : Path) (place : Place) : Prop :=
  ∃ bytes, tree.Located path place bytes

/-- The tree with other bytes in the file at `path`, if there are any to be written. -/
def overwrite (tree : FileTree) (path : Path) : Option ByteArray → FileTree
  | none => tree
  | some bytes => (tree.writeBytes path bytes).toOption.getD tree

namespace SameLayout

theorem refl (tree : FileTree) : SameLayout tree tree := fun _ => rfl

theorem symm (h : SameLayout tree tree') : SameLayout tree' tree := fun place => (h place).symm

theorem trans (h : SameLayout tree tree') (h' : SameLayout tree' tree'') :
    SameLayout tree tree'' := fun place => (h' place).trans (h place)

theorem node?_eq_none (h : SameLayout tree tree') (hnone : tree.node? place = none) :
    tree'.node? place = none := by
  have hplace := h place
  rw [hnone] at hplace
  exact Option.map_eq_none_iff.1 hplace

theorem node?_eq_directory (h : SameLayout tree tree')
    (hdirectory : tree.node? place = some .directory) : tree'.node? place = some .directory := by
  have hplace := h place
  rw [hdirectory] at hplace
  obtain ⟨node, hnode, hkind⟩ := Option.map_eq_some_iff.1 hplace
  cases node with
  | file bytes => cases hkind
  | directory => exact hnode

theorem exists_file (h : SameLayout tree tree') (hfile : tree.node? place = some (.file bytes)) :
    ∃ bytes', tree'.node? place = some (.file bytes') := by
  have hplace := h place
  rw [hfile] at hplace
  obtain ⟨node, hnode, hkind⟩ := Option.map_eq_some_iff.1 hplace
  cases node with
  | file bytes' => exact ⟨bytes', hnode⟩
  | directory => cases hkind

theorem walk_eq (h : SameLayout tree tree') (start : Place) (parts : List String) :
    tree'.walk start parts = tree.walk start parts := by
  induction parts generalizing start with
  | nil => rfl
  | cons part parts ih =>
    rw [walk, walk]
    cases hnode : tree.node? start with
    | none => rw [h.node?_eq_none hnode]
    | some node =>
      cases node with
      | file bytes =>
        obtain ⟨bytes', hnode'⟩ := h.exists_file hnode
        rw [hnode']
      | directory => simp only [h.node?_eq_directory hnode, ih]

theorem names (h : SameLayout tree tree') (hnames : tree.Names path place) :
    tree'.Names path place := by
  obtain ⟨bytes, hchecked, hwalk, hfile⟩ := hnames
  obtain ⟨bytes', hfile'⟩ := h.exists_file hfile
  exact ⟨bytes', hchecked, (h.walk_eq _ _).trans hwalk, hfile'⟩

theorem names_iff (h : SameLayout tree tree') : tree'.Names path place ↔ tree.Names path place :=
  ⟨h.symm.names, h.names⟩

/-- A path reads the same in both trees if the file that it leads to is the same. -/
theorem readBytes_eq (h : SameLayout tree tree')
    (hsame : ∀ place, tree.Names path place → tree'.node? place = tree.node? place) :
    tree'.readBytes path = tree.readBytes path := by
  unfold readBytes
  cases hchecked : checkPath path with
  | error e => rfl
  | ok checked =>
    simp only [h.walk_eq]
    cases hwalk : tree.walk (.start path) path.parts with
    | error e => rfl
    | ok place =>
      dsimp only [bind, Except.bind]
      cases hnode : tree.node? place with
      | none => rw [h.node?_eq_none hnode]
      | some node =>
        cases node with
        | file bytes => rw [hsame place ⟨bytes, hchecked, hwalk, hnode⟩, hnode]
        | directory => rw [h.node?_eq_directory hnode]

theorem readText_eq (h : SameLayout tree tree')
    (hsame : ∀ place, tree.Names path place → tree'.node? place = tree.node? place) :
    tree'.readText path = tree.readText path := by
  rw [readText, readText, h.readBytes_eq hsame]

end SameLayout

/-! ## Writing to a file -/

theorem overwrite_of_located (h : tree.Located path place bytes) (new : ByteArray) :
    tree.overwrite path (some new) = tree.put place (.file new) := by
  rw [overwrite, h.writeBytes_eq]
  rfl

theorem sameLayout_put (hfile : tree.node? place = some (.file bytes)) (new : ByteArray) :
    SameLayout tree (tree.put place (.file new)) := by
  intro other
  rw [node?_put tree (names_ne_nil_of_file hfile)]
  by_cases hother : other = place
  · rw [if_pos hother, hother, hfile]
    rfl
  · rw [if_neg hother]

section
variable {bytes? : Option ByteArray} (hread : bytes?.isSome → ∃ place, tree.Names path place)
include hread

theorem sameLayout_overwrite : SameLayout tree (tree.overwrite path bytes?) := by
  cases bytes? with
  | none => exact .refl tree
  | some new =>
    obtain ⟨place, bytes, hfile⟩ := hread rfl
    rw [overwrite_of_located hfile]
    exact sameLayout_put hfile.node_eq new

/-- The places that the path does not lead to hold what they did. -/
theorem node?_overwrite (h : ¬ tree.Names path place) :
    (tree.overwrite path bytes?).node? place = tree.node? place := by
  cases bytes? with
  | none => rfl
  | some new =>
    obtain ⟨target, bytes, hfile⟩ := hread rfl
    have hne : place ≠ target := by
      rintro rfl
      exact h ⟨bytes, hfile⟩
    rw [overwrite_of_located hfile, node?_put tree (names_ne_nil_of_file hfile.node_eq),
      if_neg hne]

end

/-- In trees with one layout the place that the path leads to takes the same bytes. -/
theorem node?_overwrite_congr (h : SameLayout tree tree') (hnames : tree.Names path place)
    (hsame : tree'.node? place = tree.node? place) (bytes? : Option ByteArray) :
    (tree'.overwrite path bytes?).node? place = (tree.overwrite path bytes?).node? place := by
  cases bytes? with
  | none => exact hsame
  | some new =>
    obtain ⟨bytes', hfile'⟩ := h.names hnames
    obtain ⟨bytes, hfile⟩ := hnames
    rw [overwrite_of_located hfile', overwrite_of_located hfile,
      node?_put tree' (names_ne_nil_of_file hfile'.node_eq),
      node?_put tree (names_ne_nil_of_file hfile.node_eq), if_pos rfl, if_pos rfl]

end FileTree

end Emend

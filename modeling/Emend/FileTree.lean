import Emend.Path

/-!
# Files

The files that a run reads and writes, seen from the working directory, the top of the tree. A
path is looked up part by part: an empty part and a single dot stay where they are, two dots go
up. The directories above the top and the root can be reached, but nothing is in them unless it
was put there.

## Lemmas

`node?_put` says what a tree holds after one node was put.
-/

namespace Emend

/-- Why a file cannot be read or written. -/
inductive IoError where
  | notFound
  | notDirectory
  | isDirectory
  | nameTooLong
  | nulInName
  | invalidUtf8
  | other (message : String)
  deriving DecidableEq

/-- The wording of an error. -/
def IoError.message : IoError → String
  | notFound => "No such file or directory (os error 2)"
  | notDirectory => "Not a directory (os error 20)"
  | isDirectory => "Is a directory (os error 21)"
  | nameTooLong => "File name too long (os error 36)"
  | nulInName => "file name contained an unexpected NUL byte"
  | invalidUtf8 => "stream did not contain valid UTF-8"
  | other message => message

/-- Where the names of a place lead down from. -/
inductive Anchor where
  /-- The directory so many levels above the top. -/
  | above (levels : Nat)
  | root
  deriving DecidableEq

/-- A place among the files: names that lead down from an anchor. -/
structure Place where
  anchor : Anchor
  names : List String
  deriving DecidableEq

namespace Place

/-- The working directory. -/
def top : Place := ⟨.above 0, []⟩

/-- The place where a path starts. -/
def start (path : Path) : Place := if path.isAbsolute then ⟨.root, []⟩ else top

/-- The place called `name` in a directory. -/
def child (place : Place) (name : String) : Place := { place with names := place.names ++ [name] }

/-- The directory that holds a place. The root holds itself. -/
def parent (place : Place) : Place :=
  match place.names, place.anchor with
  | [], .above levels => ⟨.above (levels + 1), []⟩
  | names, anchor => ⟨anchor, names.dropLast⟩

end Place

/-- What stands at a place of the tree. -/
inductive Node where
  | file (bytes : ByteArray)
  | directory

/-- A tree of files. Anchors are directories that are not listed. -/
structure FileTree where
  nodes : List (Place × Node)

namespace FileTree

/-- No file. -/
def empty : FileTree := ⟨[]⟩

/-- The node at a place. -/
def node? (tree : FileTree) (place : Place) : Option Node :=
  if place.names = [] then some .directory else tree.nodes.lookup place

/-- The list with `node` at `place`. -/
def putNode (place : Place) (node : Node) : List (Place × Node) → List (Place × Node)
  | [] => [(place, node)]
  | (p, old) :: rest =>
    if place = p then (place, node) :: rest else (p, old) :: putNode place node rest

/-- The tree with `node` at `place`. -/
def put (tree : FileTree) (place : Place) (node : Node) : FileTree :=
  ⟨putNode place node tree.nodes⟩

/-- The greatest number of bytes in a name. -/
def longestName : Nat := 255

/-- The greatest number of bytes in a path. -/
def longestPath : Nat := 4095

/-- Refuses a path that no look-up starts with. -/
def checkPath (path : Path) : Except IoError Unit :=
  if path.text.toList.contains '\x00' then .error .nulInName
  else if path.text = "" then .error .notFound
  else if longestPath < path.text.utf8ByteSize then .error .nameTooLong
  else .ok ()

/-- The place called `name` in a directory, if the name is not too long. -/
def step (place : Place) (name : String) : Except IoError Place :=
  if longestName < name.utf8ByteSize then .error .nameTooLong else .ok (place.child name)

/-- The place that the parts lead to from `place`. Only a directory leads further. -/
def walk (tree : FileTree) (place : Place) : List String → Except IoError Place
  | [] => .ok place
  | part :: rest =>
    match tree.node? place with
    | none => .error .notFound
    | some (.file _) => .error .notDirectory
    | some .directory =>
      if part = "" ∨ part = "." then tree.walk place rest
      else if part = ".." then tree.walk place.parent rest
      else
        match step place part with
        | .error e => .error e
        | .ok next => tree.walk next rest

/-- The bytes of the file at `path`. -/
def readBytes (tree : FileTree) (path : Path) : Except IoError ByteArray := do
  checkPath path
  match tree.node? (← tree.walk (.start path) path.parts) with
  | none => throw .notFound
  | some .directory => throw .isDirectory
  | some (.file bytes) => return bytes

/-- The text of the file at `path`. -/
def readText (tree : FileTree) (path : Path) : Except IoError String := do
  match String.fromUTF8? (← tree.readBytes path) with
  | some text => return text
  | none => throw .invalidUtf8

/-- The place at which writing to `path` puts a file. -/
def target (tree : FileTree) (path : Path) : Except IoError Place := do
  checkPath path
  let trailing := path.parts.reverse.takeWhile (· == "")
  match path.parts.reverse.drop trailing.length with
  | [] => throw .isDirectory
  | last :: before =>
    let directory ← tree.walk (.start path) before.reverse
    match tree.node? directory with
    | none => throw .notFound
    | some (.file _) => throw .notDirectory
    | some .directory =>
      if !trailing.isEmpty ∨ last = "." ∨ last = ".." then throw .isDirectory
      let place ← step directory last
      match tree.node? place with
      | some .directory => throw .isDirectory
      | _ => return place

/-- The tree after the bytes were written to `path`. -/
def writeBytes (tree : FileTree) (path : Path) (bytes : ByteArray) :
    Except IoError FileTree := do
  return tree.put (← tree.target path) (.file bytes)

/-- The tree after the text was written to `path`. -/
def writeText (tree : FileTree) (path : Path) (text : String) : Except IoError FileTree :=
  tree.writeBytes path text.toUTF8

/-- The tree with a node at `path` below the top and directories above it. -/
def install (tree : FileTree) (path : Path) (node : Node) : FileTree :=
  let names := path.parts.filter fun part => part ≠ "" ∧ part ≠ "."
  let above := (List.range names.length).filterMap fun n =>
    if n = 0 then none else some (names.take n)
  (above.foldl (fun tree names => tree.put ⟨.above 0, names⟩ .directory) tree).put
    ⟨.above 0, names⟩ node

/-- The files below the top with their paths. -/
def files (tree : FileTree) : List (Path × ByteArray) :=
  tree.nodes.filterMap fun (place, node) =>
    match place.anchor, node with
    | .above 0, .file bytes => some (⟨"/".intercalate place.names⟩, bytes)
    | _, _ => none

/-! ## Lemmas -/

theorem lookup_cons_eq_ite (key : Place) (entry : Place × Node) (rest : List (Place × Node)) :
    (entry :: rest).lookup key = if key = entry.1 then some entry.2 else rest.lookup key := by
  rw [List.lookup_cons]
  by_cases h : key = entry.1
  · simp [h]
  · simp [h, beq_eq_false_iff_ne.2 h]

theorem lookup_putNode (place other : Place) (node : Node) (nodes : List (Place × Node)) :
    (putNode place node nodes).lookup other =
      if other = place then some node else nodes.lookup other := by
  induction nodes with
  | nil => simp [putNode, lookup_cons_eq_ite]
  | cons entry rest ih =>
    obtain ⟨p, old⟩ := entry
    rw [putNode]
    split
    · next h =>
      subst h
      by_cases ho : other = place <;> simp [lookup_cons_eq_ite, ho]
    · next h =>
      rw [lookup_cons_eq_ite, lookup_cons_eq_ite, ih]
      by_cases ho : other = p
      · subst ho
        simp [Ne.symm h]
      · simp [ho]

theorem node?_put (tree : FileTree) {place : Place} (h : place.names ≠ []) (node : Node)
    (other : Place) :
    (tree.put place node).node? other = if other = place then some node else tree.node? other := by
  unfold node? put
  by_cases ho : other = place
  · subst ho
    simp [h, lookup_putNode]
  · simp [ho, lookup_putNode]

end FileTree

end Emend

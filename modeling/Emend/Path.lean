import Emend.Json.Decode
import Emend.Text.Pieces

/-!
# Paths

A path is kept as it was written. Its components are the parts between slashes, where empty parts
and single dots do not count, except that a dot at the very front does and a slash at the front is
the root. Paths are ordered by their components, so `a//b`, `a/./b` and `a/b/` are one path with
`a/b`.
-/

namespace Emend

/-- A part of a path. -/
inductive Component where
  | root
  | current
  | parent
  | name (s : String)
  deriving DecidableEq

/-- The rank of a component's kind. -/
def Component.rank : Component → Nat
  | root => 0
  | current => 1
  | parent => 2
  | name _ => 3

/-- Kinds of components by their rank, names by their text. -/
instance : Ord Component where
  compare
    | .name s, .name t => compare s t
    | a, b => compare a.rank b.rank

/-- A path as written. -/
structure Path where
  text : String
  deriving DecidableEq, Inhabited

namespace Path

/-- The parts of a path between slashes, empty ones too. -/
def parts (path : Path) : List String :=
  (Text.pieces '/' path.text.toList).map String.ofList

/-- Does the path start at the root? -/
def isAbsolute (path : Path) : Bool := path.text.toList.head? == some '/'

/-- The component of a part, if it counts behind the front. -/
def component? (part : String) : Option Component :=
  if part = "" ∨ part = "." then none
  else if part = ".." then some .parent
  else some (.name part)

/-- The components of a path. -/
def components (path : Path) : List Component :=
  let front : List Component :=
    if path.isAbsolute then [.root]
    else if path.parts.head? = some "." then [.current]
    else []
  front ++ path.parts.filterMap component?

instance : Ord Path := ⟨fun p q => compare p.components q.components⟩

/-- The last component, if it is a name. -/
def fileName? (path : Path) : Option String :=
  match path.components.getLast? with
  | some (.name s) => some s
  | _ => none

/-- What follows the last dot of the file name. A dot at its front does not count. -/
def extension? (path : Path) : Option String := do
  let chars := (← path.fileName?).toList.reverse
  let after := chars.takeWhile (· != '.')
  match chars.drop after.length with
  | [] | [_] => none
  | _ => some (String.ofList after.reverse)

instance : ToJson Path := ⟨fun path => .string path.text⟩

instance : FromJson Path where
  fromJson
    | .string s => .ok ⟨s⟩
    | value => wrongType value "path string"

end Path

end Emend

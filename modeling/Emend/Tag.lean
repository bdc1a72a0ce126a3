import Emend.Json.Decode

/-!
# Tags

A tag names what a representation of a file is, and through it which rules, fixers and
transformers are meant for it. Two tags are built in: whole texts and line lists.
-/

namespace Emend

/-- The name of a kind of representation. -/
structure Tag where
  name : String
  deriving DecidableEq, Inhabited

namespace Tag

/-- The whole text of a file. -/
def text : Tag := ⟨"string"⟩

/-- The lines of a file. -/
def line : Tag := ⟨"line"⟩

instance : Ord Tag := ⟨fun a b => compare a.name b.name⟩

instance : ToJson Tag := ⟨fun tag => .string tag.name⟩

instance : FromJson Tag := ⟨fun value => do return ⟨← fromJson value⟩, none⟩

end Tag

end Emend

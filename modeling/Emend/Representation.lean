import Emend.Path
import Emend.Tag

/-!
# Representations

A document with the tag that says what it represents and the path it was parsed from.
-/

namespace Emend

/-- A parsed document. -/
structure Representation (D : Type) where
  tag : Tag
  content : D
  path : Path
  deriving DecidableEq

namespace Representation

variable {D : Type}

/-- The representation with another content. -/
def withContent (r : Representation D) (content : D) : Representation D := { r with content }

instance [ToJson D] : ToJson (Representation D) where
  toJson r := .object
    [("content", toJson r.content), ("source_path", toJson r.path), ("type", toJson r.tag)]

instance [FromJson D] : FromJson (Representation D) where
  fromJson := decodeStruct "IntermediateRepresentation"
    (fun members => do
      checkMembers [("type", .of Tag), ("content", .of D), ("source_path", .of Path)] members
      return ⟨← required "type" members, ← required "content" members,
        ← required "source_path" members⟩)
    (do
      let expected := "struct IntermediateRepresentation with 3 elements"
      return ⟨← Items.required expected, ← Items.required expected, ← Items.required expected⟩)

end Representation

end Emend

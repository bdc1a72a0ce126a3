import Emend.Document.Lines
import Emend.Document.Text

/-!
# Catalogues of document kinds

A registry holds plugins for several kinds of documents at once: texts, line lists, and those that
a client adds. A catalogue says which these are and how messages call them; plugins of different
kinds stand in one list as entries that keep their kind.
-/

namespace Emend

/-- A kind of document, `ε` being the kinds that a client adds. -/
inductive Kind (ε : Type) where
  | text
  | lines
  | custom (k : ε)
  deriving DecidableEq

/-- The kinds of documents that a registry tells apart. -/
structure Catalogue where
  /-- The kinds that a client adds. -/
  Custom : Type
  decEq : DecidableEq Custom
  /-- What such a kind is. -/
  custom : Custom → Shape
  /-- What messages call a kind. -/
  label : Kind Custom → String

namespace Catalogue

instance (c : Catalogue) : DecidableEq c.Custom := c.decEq

/-- The documents of a kind. -/
def shape (c : Catalogue) : Kind c.Custom → Shape
  | .text => .text
  | .lines => .lines
  | .custom k => c.custom k

end Catalogue

end Emend

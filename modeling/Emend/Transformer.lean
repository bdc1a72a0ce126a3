import Emend.Diagnostic
import Emend.Document
import Emend.Error.Plugin
import Emend.Representation

/-!
# Transformers

A transformer changes a representation after the fixes, knowing what the last round left
unresolved.
-/

namespace Emend

/-- A transformer for one kind of document. -/
structure Transformer (s : Shape) where
  name : String
  description : String
  transform : Representation s.Doc → List (Diagnostic s.Payload) →
    Except PluginError (Representation s.Doc)

end Emend

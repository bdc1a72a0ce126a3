import Emend.Json.Reader

/-!
# Errors of plugins
-/

namespace Emend

/-- Why a plugin cannot be registered, found or used. -/
inductive PluginError where
  | duplicate (name : String)
  | notFound (name : String)
  | invalidOptions (name detail : String)
  | transform (detail : String)
  | serialization (cause : Json.ReadError)
  deriving DecidableEq

/-- The wording of an error. -/
def PluginError.message : PluginError → String
  | duplicate name => s!"Duplicate plugin: {name}"
  | notFound name => s!"Plugin not found: {name}"
  | invalidOptions name detail => s!"Invalid options for {name}: {detail}"
  | transform detail => s!"Transform failed: {detail}"
  | serialization cause => s!"Serialization error: {cause.message}"

end Emend

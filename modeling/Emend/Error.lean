import Emend.Config
import Emend.Error.Fixer
import Emend.Error.Parse
import Emend.Error.Plugin

/-!
# Errors of the engine

Whatever can go wrong in a run, under the part of the engine that it comes from.
-/

namespace Emend

/-- Why a run fails. -/
inductive EngineError where
  | config (cause : ConfigError)
  /-- No parser for the file or of the name. -/
  | noParser (target : String)
  | parse (cause : ParseError)
  | plugin (cause : PluginError)
  | fixer (cause : FixerError)
  | io (cause : IoError)
  deriving DecidableEq

/-- The wording of an error. -/
def EngineError.message : EngineError → String
  | config cause => s!"Configuration error: {cause.message}"
  | noParser target => s!"No parser for {target}"
  | parse cause => s!"Parse error: {cause.message}"
  | plugin cause => s!"Plugin error: {cause.message}"
  | fixer cause => s!"Fixer error: {cause.message}"
  | io cause => s!"I/O error: {cause.message}"

end Emend

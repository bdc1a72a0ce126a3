import Emend.Diagnostic
import Emend.FileTree

/-!
# Errors of parsers
-/

namespace Emend

/-- Why a parser fails. -/
inductive ParseError where
  /-- The source is not what the parser reads, with the place and what was found, if known. -/
  | invalidSource (detail : String) (offset : Option Nat) (diagnostics : List (Diagnostic String))
  /-- The parser has no such ability. -/
  | unsupported (feature : String)
  /-- The file could not be read or written. -/
  | io (cause : IoError)
  /-- The parser itself is at fault. -/
  | internal (detail : String)
  deriving DecidableEq

namespace ParseError

/-- The wording of an error. -/
def message : ParseError → String
  | invalidSource detail _ _ => s!"Invalid source: {detail}"
  | unsupported feature => s!"Unsupported: {feature}"
  | io cause => s!"I/O error: {cause.message}"
  | internal detail => s!"Internal parser error: {detail}"

/-- The error with one more diagnostic, if it is about the source. -/
def withDiagnostic (diagnostic : Diagnostic String) : ParseError → ParseError
  | invalidSource detail offset diagnostics =>
    invalidSource detail offset (diagnostics ++ [diagnostic])
  | e => e

/-- The diagnostics of an error about the source. -/
def diagnostics : ParseError → List (Diagnostic String)
  | invalidSource _ _ diagnostics => diagnostics
  | _ => []

/-- The offset of an error about the source, if it is known. -/
def offset? : ParseError → Option Nat
  | invalidSource _ offset _ => offset
  | _ => none

end ParseError

end Emend

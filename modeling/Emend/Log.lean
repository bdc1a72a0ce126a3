import Emend.Path
import Emend.Resolution
import Emend.Tag

/-!
# The log

What the engine reports while it works, as events with their data. Each has a level and a wording.
-/

namespace Emend

/-- How loud an event is. -/
inductive Level where
  | debug
  | info
  | warn
  deriving DecidableEq

/-- How many plugins of each kind a registry holds. -/
structure Census where
  parsers : Nat
  rules : Nat
  fixers : Nat
  transformers : Nat
  deriving DecidableEq

/-- The wording of a census. -/
def Census.message (c : Census) : String :=
  s!"{c.parsers} parsers, {c.rules} rules, {c.fixers} fixers, {c.transformers} transformers"

/-- Something that the engine reports. -/
inductive Event where
  /-- A fix was left out because its span is no range of the document. -/
  | invalidSpan (origin : String) (span : Span) (length : Nat)
  /-- A fix was left out for a conflict. -/
  | skipped (origin : String) (reason : Rejection)
  /-- A fix is spliced in: its own span, and where that lies now. -/
  | applying (origin : String) (span range : Span)
  /-- A loop ended with a round that changed nothing. -/
  | converged (path : Path) (rounds : Nat)
  /-- A loop ended because a content came back. -/
  | cycle (path : Path) (length : Nat)
  /-- A loop ended with its last allowed round. -/
  | exhausted (path : Path) (rounds : Nat)
  | parsedText (path : Path) (bytes : Nat)
  | parsedLines (path : Path) (lines : Nat)
  | registeredParser (name : String) (tag : Tag)
  | registeredRule (name : String) (tag : Tag)
  | registeredFixer (tag : Tag)
  | registeredTransformer (name : String) (tag : Tag)
  /-- A plugin was refused because its documents are not those of its tag. -/
  | boundElsewhere (tag : Tag) (bound refused : String)
  | builtRegistry (census : Census)
  | clearingRegistry (census : Census)
  | fixingFile (path : Path) (parser : String) (rules : Nat)
  | readOnlyParser (parser : String) (path : Path)
  | skippingTransformer (name : String) (tag : Tag)
  | applyingTransformer (name : String) (path : Path)
  | fixedFile (path : Path) (applied unresolved : Nat)
  deriving DecidableEq

namespace Event

/-- The level of an event. -/
def level : Event → Level
  | invalidSpan .. | skipped .. | cycle .. | exhausted .. | readOnlyParser .. => .warn
  | fixingFile .. | fixedFile .. => .info
  | _ => .debug

/-- The wording of an event. -/
def message : Event → String
  | invalidSpan origin span length =>
    s!"Invalid fix span from '{origin}': start={span.start}, end={span.stop}, " ++
      s!"content_len={length}"
  | skipped origin reason => s!"Skipping fix from '{origin}': {reason.message}"
  | applying origin span range =>
    s!"Applying fix from '{origin}': replace [{span.start}..{span.stop}] at " ++
      s!"[{range.start}..{range.stop}]"
  | converged path rounds => s!"Fixes for {path.text} converged after {rounds} rounds"
  | cycle path length => s!"Fix cycle detected in {path.text} (length {length})"
  | exhausted path rounds => s!"Fixes for {path.text} did not converge within {rounds} rounds"
  | parsedText path bytes => s!"Parsed {path.text} as string ({bytes} bytes)"
  | parsedLines path lines => s!"Parsed {path.text} as {lines} lines"
  | registeredParser name tag => s!"Registered parser '{name}' for '{tag.name}'"
  | registeredRule name tag => s!"Registered rule '{name}' for '{tag.name}'"
  | registeredFixer tag => s!"Registered fixer for '{tag.name}'"
  | registeredTransformer name tag => s!"Registered transformer '{name}' for '{tag.name}'"
  | boundElsewhere tag bound refused =>
    s!"Tag '{tag.name}' is bound to {bound}, refusing {refused}"
  | builtRegistry census => s!"Built registry: {census.message}"
  | clearingRegistry census => s!"Clearing registry: {census.message}"
  | fixingFile path parser rules => s!"Fixing {path.text} with parser '{parser}' ({rules} rules)"
  | readOnlyParser parser path =>
    s!"Parser '{parser}' cannot write {path.text}, reporting without fixing"
  | skippingTransformer name tag => s!"Skipping transformer '{name}' for '{tag.name}'"
  | applyingTransformer name path => s!"Applying transformer '{name}' to {path.text}"
  | fixedFile path applied unresolved =>
    s!"Fixed {path.text}: {applied} fixes applied, {unresolved} unresolved"

end Event

end Emend

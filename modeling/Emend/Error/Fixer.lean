import Emend.Document
import Emend.Tag

/-!
# Errors of applying fixes
-/

namespace Emend

/-- Why a batch cannot be applied. -/
inductive FixerError where
  /-- What is meant for `expected` was used on `found`. -/
  | unsupportedRepresentation (expected found : Tag)
  /-- A payload could not be spliced in. -/
  | spliceFailure (cause : SpliceError)
  /-- A span shifted by the growth so far is no span of words. -/
  | offsetOverflow (span : Span) (shift : Int)
  deriving DecidableEq

/-- The wording of an error. -/
def FixerError.message : FixerError → String
  | unsupportedRepresentation expected found =>
    s!"fixer for '{expected.name}' cannot apply fixes to a '{found.name}' representation"
  | spliceFailure cause => s!"splice failed: {cause.message}"
  | offsetOverflow span shift => s!"offset overflow translating {span.describe} by {shift}"

end Emend

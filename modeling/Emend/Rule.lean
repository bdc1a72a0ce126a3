import Emend.Config.RuleOption
import Emend.Document
import Emend.Representation

/-!
# Rules

A rule looks at a representation and reports diagnostics. What it is shown besides the
representation are the locale and the parameters of the run.
-/

namespace Emend

/-- What a rule is shown. -/
structure MatchContext (D : Type) where
  representation : Representation D
  locale : Option String := none
  parameters : Json := .null

namespace MatchContext

variable {D : Type}

/-- The document. -/
def content (context : MatchContext D) : D := context.representation.content

/-- The file. -/
def path (context : MatchContext D) : Path := context.representation.path

instance [ToJson D] : ToJson (MatchContext D) where
  toJson context := .object
    [("content", toJson context.content), ("ir_type", toJson context.representation.tag),
      ("locale", toJson context.locale), ("parameters", context.parameters),
      ("path", toJson context.path)]

end MatchContext

/-- A rule for one kind of document. -/
structure Rule (s : Shape) where
  name : String
  description : String
  link : Option String := none
  /-- The representations that the rule is meant for. -/
  tag : Tag := .line
  /-- The locale in which the rule's own messages are written. -/
  sourceLocale : String := "en-US"
  /-- What the rule reports. -/
  check : MatchContext s.Doc → List (Diagnostic s.Payload)

/-- What a rule says of itself. -/
instance {s : Shape} : ToJson (Rule s) where
  toJson rule := .object
    [("description", toJson rule.description), ("ir_type", toJson rule.tag),
      ("link", toJson rule.link), ("name", toJson rule.name),
      ("source_locale", toJson rule.sourceLocale)]

end Emend

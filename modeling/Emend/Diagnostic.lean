import Emend.Fix
import Emend.Path

/-!
# Diagnostics

What a rule reports: a message about a span, how severe it is, perhaps the file and perhaps a fix.
-/

namespace Emend

/-- How severe a diagnostic is. -/
inductive Severity where
  | error
  | warning
  | info
  deriving DecidableEq, Inhabited

namespace Severity

/-- The severities with their names, the most severe first. -/
def named : List (String × Severity) := [("error", error), ("warning", warning), ("info", info)]

/-- The name of a severity. -/
def name : Severity → String
  | error => "error"
  | warning => "warning"
  | info => "info"

/-- Errors come before warnings, and these before informations. -/
def rank : Severity → Nat
  | error => 0
  | warning => 1
  | info => 2

instance : Ord Severity := ⟨fun a b => compare a.rank b.rank⟩

instance : ToJson Severity := ⟨fun s => .string s.name⟩

instance : FromJson Severity := ⟨decodeEnum named, none⟩

end Severity

/-- A report about a span of a document. -/
structure Diagnostic (P : Type) where
  ruleId : String
  message : String
  span : Span
  severity : Severity := .error
  path : Option Path := none
  fix : Option (Fix P) := none
  deriving DecidableEq

namespace Diagnostic

variable {P : Type}

/-- Diagnostics are ordered by their fields, an absent path or fix before a present one. -/
instance [Ord P] : Ord (Diagnostic P) where
  compare a b := (compare a.ruleId b.ruleId).then <| (compare a.message b.message).then <|
    (compare a.span b.span).then <| (compare a.severity b.severity).then <|
    (compare a.path b.path).then (compare a.fix b.fix)

/-- A member that is left out when there is no value. -/
def member? {α : Type} [ToJson α] (key : String) : Option α → List (String × Json)
  | none => []
  | some a => [(key, toJson a)]

instance [ToJson P] : ToJson (Diagnostic P) where
  toJson d := .object (member? "fix" d.fix ++ [("message", toJson d.message)] ++
    member? "path" d.path ++
    [("rule_id", toJson d.ruleId), ("severity", toJson d.severity), ("span", toJson d.span)])

instance [FromJson P] : FromJson (Diagnostic P) where
  fromJson := decodeStruct "Diagnostic"
    (fun members => do
      checkMembers
        [("rule_id", .of String), ("message", .of String), ("span", .of Span),
          ("severity", .of Severity), ("path", .of (Option Path)), ("fix", .of (Option (Fix P)))]
        members
      return ⟨← required "rule_id" members, ← required "message" members,
        ← required "span" members, ← optional "severity" .error members,
        ← required "path" members, ← required "fix" members⟩)
    (do
      let expected := "struct Diagnostic with 6 elements"
      return ⟨← Items.required expected, ← Items.required expected, ← Items.required expected,
        ← Items.optional .error, ← Items.required expected, ← Items.required expected⟩)

end Diagnostic

end Emend

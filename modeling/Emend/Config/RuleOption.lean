import Emend.Diagnostic

/-!
# Options of a rule

A configuration maps a rule to a boolean that switches it, to a word for its severity, or to any
other value, which is handed to the rule as its parameters. The word `off` switches a rule off; a
value with a member `severity` sets the severity too.
-/

namespace Emend

/-- What a configuration says of a rule. -/
inductive RuleOption where
  | enabled (on : Bool)
  | severity (word : String)
  | options (value : Json)
  deriving DecidableEq

namespace RuleOption

/-- Does the rule run? -/
def isEnabled : RuleOption → Bool
  | enabled on => on
  | severity word => word != "off"
  | options _ => true

/-- The severity that a word stands for. -/
def ofWord? (word : String) : Option Severity :=
  if word = "error" then some .error
  else if word = "warning" ∨ word = "warn" then some .warning
  else if word = "info" then some .info
  else none

/-- The severity that replaces the one of each diagnostic. -/
def severity? : RuleOption → Option Severity
  | enabled _ => none
  | severity word => ofWord? word
  | options value => do (fromJson (← value.get? "severity") : Except DecodeError Severity).toOption

/-- What the rule gets as its parameters. -/
def parameters : RuleOption → Json
  | options value => value
  | _ => .null

instance : ToJson RuleOption where
  toJson
    | enabled on => .bool on
    | severity word => .string word
    | options value => value

instance : FromJson RuleOption where
  fromJson
    | .bool on => .ok (enabled on)
    | .string word => .ok (severity word)
    | value => .ok (options value)

end RuleOption

/-- The options of rules by their names. -/
structure RuleOptions where
  toList : List (String × RuleOption)
  deriving DecidableEq

namespace RuleOptions

/-- The options of the rule `name`. -/
def get? (rules : RuleOptions) (name : String) : Option RuleOption := rules.toList.lookup name

instance : ToJson RuleOptions where
  toJson rules := .object (rules.toList.map fun (name, option) => (name, toJson option))

/-- Reads the members of an object as options. -/
def decodeMembers : List (String × Json) → Except DecodeError (List (String × RuleOption))
  | [] => .ok []
  | (name, value) :: rest => do
    let option ← fromJson value
    let others ← decodeMembers rest
    return (name, option) :: others

instance : FromJson RuleOptions where
  fromJson
    | .object members => do return ⟨← decodeMembers members⟩
    | value => wrongType value "a map"

end RuleOptions

end Emend

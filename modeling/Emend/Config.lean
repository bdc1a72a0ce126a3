import Emend.Config.RuleOption
import Emend.FileTree
import Emend.FixLoop
import Emend.Jsonc.Value
import Emend.Resolution

/-!
# Configuration

How a run treats insertions at one point, how often the loop may go round, which transformers
follow in which order, what is said of each rule, and the locale of the messages. A configuration
is read from JSON with comments; every field may be missing, and a text without a value is the
default.
-/

namespace Emend

/-- Why there is no configuration. -/
inductive ConfigError where
  | unreadable (cause : IoError)
  | invalidJson (cause : Jsonc.ReadError)
  | invalid (cause : DecodeError)
  | noRound
  | other (detail : String)
  deriving DecidableEq

/-- The wording of an error. -/
def ConfigError.message : ConfigError → String
  | unreadable cause => s!"Failed to read config: {cause.message}"
  | invalidJson cause => s!"Invalid JSON: {cause.message}"
  | invalid cause => s!"Invalid config: {cause.message}"
  | noRound => "max_iterations must be at least 1"
  | other detail => detail

/-- The configuration of a run. -/
structure Config where
  policy : SamePointPolicy := .firstSubmitted
  maxIterations : Nat := FixLoop.defaultLimit
  transformers : List String := []
  rules : RuleOptions := ⟨[]⟩
  locale : Option String := none
  deriving DecidableEq

namespace Config

/-- Nothing configured. -/
def default : Config := {}

/-- Does the rule `name` run? Rules that are not mentioned do. -/
def isRuleEnabled (config : Config) (name : String) : Bool :=
  (config.rules.get? name).all RuleOption.isEnabled

/-- The severity that replaces the one of each diagnostic of the rule `name`. -/
def ruleSeverity? (config : Config) (name : String) : Option Severity :=
  (config.rules.get? name).bind RuleOption.severity?

/-- The parameters of the rule `name`. -/
def ruleParameters (config : Config) (name : String) : Json :=
  ((config.rules.get? name).map RuleOption.parameters).getD .null

instance : ToJson Config where
  toJson config := .object (Diagnostic.member? "locale" config.locale ++
    [("max_iterations", toJson config.maxIterations), ("rules", toJson config.rules),
      ("same_point_policy", toJson config.policy), ("transformers", toJson config.transformers)])

instance : FromJson Config where
  fromJson := decodeStruct "FixConfig"
    (fun members => do
      checkMembers
        [("same_point_policy", .of SamePointPolicy), ("max_iterations", .of Nat),
          ("transformers", .of (List String)), ("rules", .of RuleOptions),
          ("locale", .of (Option String))]
        members
      return ⟨← optional "same_point_policy" default.policy members,
        ← optional "max_iterations" default.maxIterations members,
        ← optional "transformers" default.transformers members,
        ← optional "rules" default.rules members,
        ← optional "locale" default.locale members⟩)
    (do
      return ⟨← Items.optional default.policy, ← Items.optional default.maxIterations,
        ← Items.optional default.transformers, ← Items.optional default.rules,
        ← Items.optional default.locale⟩)

/-- Refuses a configuration that allows no round. -/
def validate (config : Config) : Except ConfigError Config :=
  if config.maxIterations = 0 then .error .noRound else .ok config

/-- Reads a configuration from the value of a text, an empty object if there is none. -/
def ofValue (value : Option Json) : Except ConfigError Config :=
  match (fromJson (value.getD (.object [])) : Except DecodeError Config) with
  | .ok config => config.validate
  | .error e => .error (.invalid e)

/-- Reads a configuration from a text. -/
def ofText (text : String) : Except ConfigError Config :=
  match Jsonc.read text with
  | .ok value => ofValue value
  | .error e => .error (.invalidJson e)

/-- Reads a configuration from a file. -/
def ofFile (tree : FileTree) (path : Path) : Except ConfigError Config :=
  match tree.readText path with
  | .ok text => ofText text
  | .error e => .error (.unreadable e)

end Config

end Emend

import Emend.Batch
import Emend.Catalogue
import Emend.Error
import Emend.Parser
import Emend.Rule
import Emend.Transformer

/-!
# The registry of plugins

Parsers, rules, fixers and transformers, each with the tag it is meant for. A tag is bound to the
kind of document of the first plugin registered for it, and a plugin for another kind is refused
under that tag. Names are unique among parsers, among rules and among transformers, and there is
one fixer to a tag.

Looking a plugin up asks for it at a kind of document; it is found only at its own kind.
-/

namespace Emend

/-- A registered plugin. -/
structure Entry (c : Catalogue) (P : Shape → Type) where
  tag : Tag
  kind : Kind c.Custom
  plugin : P (c.shape kind)

/-- The plugin of an entry as one for documents of `kind`. -/
def Entry.at {c : Catalogue} {P : Shape → Type} (entry : Entry c P) (kind : Kind c.Custom) :
    Except EngineError (P (c.shape kind)) :=
  if h : entry.kind = kind then .ok (h ▸ entry.plugin)
  else .error (.fixer (.unsupportedRepresentation entry.tag ⟨c.label kind⟩))

/-- The plugins of a run. -/
structure Registry (c : Catalogue) where
  kinds : List (Tag × Kind c.Custom)
  parsers : List (Entry c Parser)
  rules : List (Entry c Rule)
  fixers : List (Entry c Fixer)
  transformers : List (Entry c Transformer)

/-- What an attempt to register leaves. -/
structure Registered (c : Catalogue) where
  result : Except EngineError Unit
  registry : Registry c
  log : List Event

/-- Goes on with the registry if the first attempt succeeded. -/
def Registered.andThen {c : Catalogue} (first : Registered c)
    (next : Registry c → Registered c) : Registered c :=
  match first.result with
  | .error _ => first
  | .ok () =>
    let second := next first.registry
    { second with log := first.log ++ second.log }

namespace Registry

variable {c : Catalogue}

/-- No plugin. -/
def empty : Registry c := ⟨[], [], [], [], []⟩

/-- How many plugins there are. -/
def census (r : Registry c) : Census :=
  ⟨r.parsers.length, r.rules.length, r.fixers.length, r.transformers.length⟩

/-- Is there no plugin? -/
def isEmpty (r : Registry c) : Bool :=
  r.parsers.isEmpty && r.rules.isEmpty && r.fixers.isEmpty && r.transformers.isEmpty

/-! ## Looking up -/

/-- The kind of document that a tag is bound to. -/
def kind? (r : Registry c) (tag : Tag) : Option (Kind c.Custom) := r.kinds.lookup tag

/-- The entry of the parser `name`. -/
def parserEntry? (r : Registry c) (name : String) : Option (Entry c Parser) :=
  r.parsers.find? fun entry => entry.plugin.name == name

/-- The entry of the rule `name`. -/
def ruleEntry? (r : Registry c) (name : String) : Option (Entry c Rule) :=
  r.rules.find? fun entry => entry.plugin.name == name

/-- The entry of the fixer for a tag. -/
def fixerEntry? (r : Registry c) (tag : Tag) : Option (Entry c Fixer) :=
  r.fixers.find? fun entry => entry.tag == tag

/-- The entry of the transformer `name`. -/
def transformerEntry? (r : Registry c) (name : String) : Option (Entry c Transformer) :=
  r.transformers.find? fun entry => entry.plugin.name == name

/-- The plugin of an entry at a kind, or that there is none called `name`. -/
def found {P : Shape → Type} (name : String) (kind : Kind c.Custom) :
    Option (Entry c P) → Except EngineError (P (c.shape kind))
  | none => .error (.plugin (.notFound name))
  | some entry => entry.at kind

/-- How messages call the fixer for a tag. -/
def fixerName (tag : Tag) : String := s!"fixer for '{tag.name}'"

/-- The parser `name`. -/
def parser (r : Registry c) (kind : Kind c.Custom) (name : String) :
    Except EngineError (Parser (c.shape kind)) :=
  found name kind (r.parserEntry? name)

/-- The rule `name`. -/
def rule (r : Registry c) (kind : Kind c.Custom) (name : String) :
    Except EngineError (Rule (c.shape kind)) :=
  found name kind (r.ruleEntry? name)

/-- The rules for a tag in the order of registration. -/
def rulesFor (r : Registry c) (kind : Kind c.Custom) (tag : Tag) :
    Except EngineError (List (Rule (c.shape kind))) :=
  (r.rules.filter fun entry => entry.tag == tag).mapM fun entry => entry.at kind

/-- The fixer for a tag. -/
def fixerFor (r : Registry c) (kind : Kind c.Custom) (tag : Tag) :
    Except EngineError (Fixer (c.shape kind)) :=
  found (fixerName tag) kind (r.fixerEntry? tag)

/-- The transformer `name`. -/
def transformer (r : Registry c) (kind : Kind c.Custom) (name : String) :
    Except EngineError (Transformer (c.shape kind)) :=
  found name kind (r.transformerEntry? name)

/-- The tag of the transformer `name`. -/
def transformerTag? (r : Registry c) (name : String) : Option Tag :=
  (r.transformerEntry? name).map Entry.tag

/-- The tag of the parser `name`. -/
def parserTag? (r : Registry c) (name : String) : Option Tag :=
  (r.parserEntry? name).map Entry.tag

/-- The first parser that claims files with the extension. -/
def parserForExtension? (r : Registry c) (extension : String) : Option String :=
  (r.parsers.find? fun entry => claims entry.plugin.extensions extension).map fun entry =>
    entry.plugin.name

/-- The names of the parsers in the order of registration. -/
def parserNames (r : Registry c) : List String := r.parsers.map fun entry => entry.plugin.name

/-- The names of the rules in the order of registration. -/
def ruleNames (r : Registry c) : List String := r.rules.map fun entry => entry.plugin.name

/-! ## Registering -/

/-- Binds the tag to the kind, unless it is bound already. -/
def bindFree (r : Registry c) (tag : Tag) (kind : Kind c.Custom) : Registry c :=
  if (r.kind? tag).isSome then r else { r with kinds := r.kinds ++ [(tag, kind)] }

/-- Binds the tag to the kind, or refuses if it is bound to another one. -/
def bind (r : Registry c) (tag : Tag) (kind : Kind c.Custom) : Registered c :=
  match r.kind? tag with
  | none => ⟨.ok (), r.bindFree tag kind, []⟩
  | some bound =>
    if bound = kind then ⟨.ok (), r, []⟩
    else ⟨.error (.fixer (.unsupportedRepresentation tag ⟨c.label kind⟩)), r,
      [.boundElsewhere tag (c.label bound) (c.label kind)]⟩

/-- The refusal of a plugin whose name is taken. -/
def refuseDuplicate (r : Registry c) (name : String) : Registered c :=
  ⟨.error (.plugin (.duplicate name)), r, []⟩

/-- Adds a parser as it is. -/
def pushParser (r : Registry c) (kind : Kind c.Custom) (parser : Parser (c.shape kind)) :
    Registered c :=
  let r := r.bindFree parser.tag kind
  ⟨.ok (), { r with parsers := r.parsers ++ [⟨parser.tag, kind, parser⟩] },
    [.registeredParser parser.name parser.tag]⟩

/-- Adds a rule as it is. -/
def pushRule (r : Registry c) (kind : Kind c.Custom) (rule : Rule (c.shape kind)) :
    Registered c :=
  ⟨.ok (), { r with rules := r.rules ++ [⟨rule.tag, kind, rule⟩] },
    [.registeredRule rule.name rule.tag]⟩

/-- Adds a fixer as it is. -/
def pushFixer (r : Registry c) (kind : Kind c.Custom) (fixer : Fixer (c.shape kind)) :
    Registered c :=
  let r := r.bindFree fixer.tag kind
  ⟨.ok (), { r with fixers := r.fixers ++ [⟨fixer.tag, kind, fixer⟩] },
    [.registeredFixer fixer.tag]⟩

/-- Adds a transformer as it is. -/
def pushTransformer (r : Registry c) (kind : Kind c.Custom) (tag : Tag)
    (transformer : Transformer (c.shape kind)) : Registered c :=
  ⟨.ok (), { r with transformers := r.transformers ++ [⟨tag, kind, transformer⟩] },
    [.registeredTransformer transformer.name tag]⟩

/-- Registers a parser. -/
def addParser (r : Registry c) (kind : Kind c.Custom) (parser : Parser (c.shape kind)) :
    Registered c :=
  if (r.parserEntry? parser.name).isSome then r.refuseDuplicate parser.name
  else (r.bind parser.tag kind).andThen fun r => r.pushParser kind parser

/-- Registers a rule. -/
def addRule (r : Registry c) (kind : Kind c.Custom) (rule : Rule (c.shape kind)) :
    Registered c :=
  if (r.ruleEntry? rule.name).isSome then r.refuseDuplicate rule.name
  else (r.bind rule.tag kind).andThen fun r => r.pushRule kind rule

/-- Registers a fixer. -/
def addFixer (r : Registry c) (kind : Kind c.Custom) (fixer : Fixer (c.shape kind)) :
    Registered c :=
  if (r.fixerEntry? fixer.tag).isSome then r.refuseDuplicate (fixerName fixer.tag)
  else (r.bind fixer.tag kind).andThen fun r => r.pushFixer kind fixer

/-- Registers a transformer for a tag. -/
def addTransformer (r : Registry c) (kind : Kind c.Custom) (tag : Tag)
    (transformer : Transformer (c.shape kind)) : Registered c :=
  if (r.transformerEntry? transformer.name).isSome then r.refuseDuplicate transformer.name
  else (r.bind tag kind).andThen fun r => r.pushTransformer kind tag transformer

/-- The built-in parsers and fixers. -/
def builtins : Registered c :=
  (((empty.pushParser .lines .lines).andThen fun r => r.pushParser .text .text).andThen
    fun r => r.pushFixer .lines .lines).andThen fun r => r.pushFixer .text .text

/-- What the log says when a registry is complete. -/
def builtEvent (r : Registry c) : Event := .builtRegistry r.census

/-- What the log says when a registry is emptied. -/
def clearEvent (r : Registry c) : Event := .clearingRegistry r.census

end Registry

end Emend

import Emend.Registry

/-!
# Fixing files

A file is parsed, and each of its representations goes through the fix loop with the enabled rules
for its tag, then through the configured transformers, and is written back if its content has
changed. A file whose parser cannot write is only reported on.

## Algorithm

One round (`FileRun.round`) evaluates the rules, applies the fixes of their diagnostics as one
batch and keeps as findings the diagnostics that were not resolved by it. `FileRun.fixFileWith`
runs over the representations in order; what happened to the files before an error stays.
-/

namespace Emend

/-- A diagnostic that a run did not resolve. -/
structure Finding where
  ruleId : String
  message : String
  span : Span
  severity : Severity
  /-- Why the fix of the diagnostic was not applied, if it has one. -/
  rejection : Option Rejection
  deriving DecidableEq

namespace Finding

/-- The finding of a diagnostic. -/
def ofDiagnostic {P : Type} (d : Diagnostic P) (rejection : Option Rejection) : Finding :=
  ⟨d.ruleId, d.message, d.span, d.severity, rejection⟩

instance : ToJson Finding where
  toJson f := .object ([("message", toJson f.message)] ++
    Diagnostic.member? "rejection" f.rejection ++
    [("rule_id", toJson f.ruleId), ("severity", toJson f.severity), ("span", toJson f.span)])

end Finding

/-- What became of a file. -/
structure FileOutcome where
  path : Path
  parser : String
  tag : Tag
  /-- How the loop over each representation ended. -/
  results : List LoopEnd
  /-- How many fixes were applied in all rounds. -/
  applied : Nat
  written : Bool
  /-- What the last rounds left unresolved. -/
  unresolved : List Finding
  deriving DecidableEq

namespace FileOutcome

/-- Was everything resolved? -/
def isClean (outcome : FileOutcome) : Bool := outcome.unresolved.isEmpty

instance : ToJson FileOutcome where
  toJson o := .object [("applied", toJson o.applied), ("ir_type", toJson o.tag),
    ("parser", toJson o.parser), ("path", toJson o.path), ("results", toJson o.results),
    ("unresolved", toJson o.unresolved), ("written", toJson o.written)]

end FileOutcome

/-- What a run changes: the files, and the log that grows at its end. -/
structure Session where
  files : FileTree
  log : List Event

/-- A part of a run. An error leaves the session as it was when the error arose. -/
abbrev Run := ExceptT EngineError (StateM Session)

namespace FileRun

/-- Adds events to the log. -/
def tell (events : List Event) : Run Unit :=
  modify fun session => { session with log := session.log ++ events }

section Representations

variable {s : Shape}

/-- What is left unresolved by a round: the diagnostics themselves and the findings made of
them. -/
structure Round (P : Type) where
  diagnostics : List (Diagnostic P)
  findings : List Finding

/-- What the rounds over one representation add up to. -/
structure Progress (P : Type) where
  applied : Nat
  last : Round P
  log : List Event

/-- The diagnostics of one rule under a configuration. -/
def evaluateRule (config : Config) (r : Representation s.Doc) (rule : Rule s) :
    List (Diagnostic s.Payload) :=
  let severity? := config.ruleSeverity? rule.name
  (rule.check ⟨r, config.locale, config.ruleParameters rule.name⟩).map fun d =>
    { d with severity := severity?.getD d.severity, path := some (d.path.getD r.path) }

/-- The rules that run under a configuration. -/
def enabled (config : Config) (rules : List (Rule s)) : List (Rule s) :=
  rules.filter fun rule => config.isRuleEnabled rule.name

theorem enabled_congr {config config' : Config} {rules : List (Rule s)}
    (h : ∀ rule ∈ rules, config.isRuleEnabled rule.name = config'.isRuleEnabled rule.name) :
    enabled config rules = enabled config' rules := List.filter_congr h

/-- The diagnostics of all rules in the order of the rules. -/
def evaluate (config : Config) (rules : List (Rule s)) (r : Representation s.Doc) :
    List (Diagnostic s.Payload) :=
  rules.flatMap (evaluateRule config r)

/-- The fixes of the diagnostics, each with the place of its diagnostic. -/
def proposals {P : Type} (diagnostics : List (Diagnostic P)) : List (Fix P × Nat) :=
  diagnostics.zipIdx.filterMap fun (d, index) => d.fix.map fun fix => (fix, index)

/-- The places of the diagnostics that a batch left unresolved, in order, each with the rejection
of its fix if it has one. -/
def unresolved {P : Type} (diagnostics : List (Diagnostic P)) (rejected : List (RejectedFix P)) :
    List (Nat × Option Rejection) :=
  let sources := (proposals diagnostics).map Prod.snd
  let plain := diagnostics.zipIdx.filterMap fun (d, index) =>
    if d.fix.isNone then some (index, none) else none
  let refused := rejected.filterMap fun r =>
    sources[r.index]?.map fun index => (index, some r.reason)
  stableSort (fun a b => a.1 ≤ b.1) (plain ++ refused)

/-- The round that leaves the diagnostics at the given places. -/
def Round.ofUnresolved {P : Type} (diagnostics : List (Diagnostic P))
    (left : List (Nat × Option Rejection)) : Round P :=
  let kept := left.filterMap fun (index, rejection) =>
    diagnostics[index]?.map fun d => (d, rejection)
  ⟨kept.map Prod.fst, kept.map fun (d, rejection) => .ofDiagnostic d rejection⟩

/-- One round of the fix loop. -/
def round (config : Config) (rules : List (Rule s)) (fixer : Fixer s)
    (progress : Progress s.Payload) (r : Representation s.Doc) :
    Stepped (Progress s.Payload) EngineError (Representation s.Doc) :=
  let diagnostics := evaluate config rules r
  let edited := fixer.applyWith r ((proposals diagnostics).map Prod.fst) config.policy
  let log := progress.log ++ edited.log
  match edited.result with
  | .error e => ⟨.error (.fixer e), edited.content, { progress with log }⟩
  | .ok report =>
    let left := unresolved diagnostics report.rejected
    ⟨.ok report.modified, edited.content,
      ⟨progress.applied + report.appliedCount, .ofUnresolved diagnostics left, log⟩⟩

/-- The fix loop over one representation. -/
def loop (config : Config) (rules : List (Rule s)) (fixer : Fixer s)
    (r : Representation s.Doc) :
    Looped (Progress s.Payload) EngineError (Representation s.Doc) :=
  FixLoop.run (fun r => s.fingerprint r.content) config.maxIterations (round config rules fixer)
    ⟨0, ⟨[], []⟩, []⟩ r

end Representations

variable {c : Catalogue}

/-- Takes a representation through the named transformers. -/
def transformAll (registry : Registry c) (kind : Kind c.Custom) (tag : Tag) (path : Path)
    (diagnostics : List (Diagnostic (c.shape kind).Payload)) :
    List String → Representation (c.shape kind).Doc → Run (Representation (c.shape kind).Doc)
  | [], r => pure r
  | name :: rest, r => do
    match registry.transformerTag? name with
    | none => throw (.plugin (.notFound name))
    | some target =>
      if target ≠ tag then
        tell [.skippingTransformer name tag]
        transformAll registry kind tag path diagnostics rest r
      else
        let transformer ← ExceptT.mk (pure (registry.transformer kind name))
        tell [.applyingTransformer name path]
        match transformer.transform r diagnostics with
        | .error e => throw (.plugin e)
        | .ok r => transformAll registry kind tag path diagnostics rest r

/-- Writes a representation back if its content is no longer the first one. -/
def writeBack {s : Shape} (parser : Parser s) (first : s.Doc) (r : Representation s.Doc) :
    Run Bool := do
  if s.fingerprint r.content = s.fingerprint first then return false
  else
    let session ← get
    match parser.write session.files r with
    | .error e => throw (.parse e)
    | .ok files =>
      set { session with files }
      return true

/-- Fixes the representations of a file one after the other. -/
def fixAll (registry : Registry c) (config : Config) (kind : Kind c.Custom)
    (parser : Parser (c.shape kind)) (rules : List (Rule (c.shape kind)))
    (fixer : Fixer (c.shape kind)) (path : Path) :
    List (Representation (c.shape kind).Doc) → FileOutcome → Run FileOutcome
  | [], outcome => pure outcome
  | first :: rest, outcome => do
    let looped := loop config rules fixer first
    tell looped.state.log
    match looped.result with
    | .error e => throw e
    | .ok ending =>
      tell [ending.event first.path]
      let last := looped.state.last
      let r ← transformAll registry kind parser.tag path last.diagnostics config.transformers
        looped.content
      let written ← writeBack parser first.content r
      fixAll registry config kind parser rules fixer path rest
        { outcome with
          results := outcome.results ++ [ending]
          applied := outcome.applied + looped.state.applied
          written := outcome.written || written
          unresolved := outcome.unresolved ++ last.findings }

/-- Fixes a file with the parser `name`, whose documents are of the given kind. -/
def fixAs (registry : Registry c) (config : Config) (kind : Kind c.Custom) (name : String)
    (path : Path) : Run FileOutcome := do
  let parser ← ExceptT.mk (pure (registry.parser kind name))
  let all ← ExceptT.mk (pure (registry.rulesFor kind parser.tag))
  let rules := enabled config all
  tell [.fixingFile path name rules.length]
  let parsed := parser.parseFile (← get).files path
  tell parsed.2
  match parsed.1 with
  | .error e => throw (.parse e)
  | .ok representations =>
    let outcome : FileOutcome := ⟨path, name, parser.tag, [], 0, false, []⟩
    if !parser.canWrite then
      tell [.readOnlyParser name path]
      return { outcome with
        unresolved := representations.flatMap fun r =>
          (evaluate config rules r).map fun d => .ofDiagnostic d none }
    else
      let fixer ← ExceptT.mk (pure (registry.fixerFor kind parser.tag))
      let outcome ← fixAll registry config kind parser rules fixer path representations outcome
      tell [.fixedFile path outcome.applied outcome.unresolved.length]
      return outcome

/-- Fixes a file with the parser `name`. -/
def fixFileWith (registry : Registry c) (config : Config) (name : String) (path : Path) :
    Run FileOutcome :=
  match registry.parserEntry? name with
  | none => throw (.noParser name)
  | some entry => fixAs registry config entry.kind name path

/-- Fixes a file with the first parser that claims its extension. -/
def fixFile (registry : Registry c) (config : Config) (path : Path) : Run FileOutcome :=
  match path.extension?.bind registry.parserForExtension? with
  | none => throw (.noParser path.text)
  | some name => fixFileWith registry config name path

/-- Fixes files one after the other; an error in one does not keep the others from being fixed. -/
def fixFiles (registry : Registry c) (config : Config) :
    List Path → StateM Session (List (Except EngineError FileOutcome))
  | [] => pure []
  | path :: rest => do
    let result ← (fixFile registry config path).run
    return result :: (← fixFiles registry config rest)

end FileRun

end Emend

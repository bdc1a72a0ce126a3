import Mathlib.Data.List.Forall2
import Emend.Proofs.FileRun.Failure

/-!
# The passes of a run

What a run does with a file, without its log. A representation goes through one `Pass`: the fix
loop, then the transformers (`treat`). The pass is then saved (`Pass.save`), which is the only time
that a run touches a file. `RunsTo` says in these terms how a run can end; a run that can write
saves the passes of the representations one after the other, of all of them or of those before one
that it fails on. Every run ends in one of these ways (`runsTo_exec`).

A part of a run is reduced to what it does to a session, up to the log, by `AmountsTo`.
-/

namespace Emend

namespace FileRun

/-! ## Passes -/

section
variable {s : Shape}

/-- What a run makes of one representation. -/
structure Pass (s : Shape) where
  first : Representation s.Doc
  /-- What the loop leaves of it. -/
  fixed : Representation s.Doc
  ending : LoopEnd
  applied : Nat
  /-- What the last round left unresolved. -/
  left : Round s.Payload
  /-- What the transformers make of what the loop leaves. -/
  final : Representation s.Doc

namespace Pass

/-- The final content is not the first one. -/
def Changed (pass : Pass s) : Prop :=
  s.fingerprint pass.final.content ≠ s.fingerprint pass.first.content

instance (pass : Pass s) : Decidable pass.Changed := inferInstanceAs (Decidable (¬ _ = _))

/-- The files after the pass was saved. -/
def save (parser : Parser s) (files : FileTree) (pass : Pass s) : Except ParseError FileTree :=
  if pass.Changed then parser.write files pass.final else .ok files

/-- The outcome with what became of one more representation. -/
def record (outcome : FileOutcome) (pass : Pass s) : FileOutcome :=
  { outcome with
    results := outcome.results ++ [pass.ending]
    applied := outcome.applied + pass.applied
    written := outcome.written || pass.Changed
    unresolved := outcome.unresolved ++ pass.left.findings }

end Pass

end

variable {c : Catalogue} {registry : Registry c} {config : Config} {kind : Kind c.Custom}
  {parser : Parser (c.shape kind)} {tag : Tag} {path : Path}

/-- The rules for a tag that the configuration leaves enabled. -/
def enabledRules (registry : Registry c) (config : Config) (kind : Kind c.Custom) (tag : Tag) :
    Except EngineError (List (Rule (c.shape kind))) :=
  (registry.rulesFor kind tag).map (enabled config)

/-- The representation after the transformer `name`, if that is for the tag. -/
def transformBy (registry : Registry c) (kind : Kind c.Custom) (tag : Tag)
    (diagnostics : List (Diagnostic (c.shape kind).Payload))
    (r : Representation (c.shape kind).Doc) (name : String) :
    Except EngineError (Representation (c.shape kind).Doc) :=
  match registry.transformerTag? name with
  | none => .error (.plugin (.notFound name))
  | some target =>
    if target = tag then do
      let transformer ← registry.transformer kind name
      (transformer.transform r diagnostics).mapError .plugin
    else .ok r

/-- The pass of a representation: the fix loop with the enabled rules and the fixer for the parser's
tag, then the configured transformers for that tag. -/
def treat (registry : Registry c) (config : Config) (parser : Parser (c.shape kind))
    (first : Representation (c.shape kind).Doc) : Except EngineError (Pass (c.shape kind)) := do
  let rules ← enabledRules registry config kind parser.tag
  let fixer ← registry.fixerFor kind parser.tag
  let looped := loop config rules fixer first
  let ending ← looped.result
  let final ← config.transformers.foldlM
    (transformBy registry kind parser.tag looped.state.last.diagnostics) looped.content
  return ⟨first, looped.content, ending, looped.state.applied, looped.state.last, final⟩

/-- The pass holds what the loop over a representation leaves. -/
structure Pass.OfLoop {s : Shape} (pass : Pass s) (config : Config) (rules : List (Rule s))
    (fixer : Fixer s) (first : Representation s.Doc) : Prop where
  first_eq : pass.first = first
  ending_eq : (loop config rules fixer first).result = .ok pass.ending
  fixed_eq : pass.fixed = (loop config rules fixer first).content
  applied_eq : pass.applied = (loop config rules fixer first).state.applied
  left_eq : pass.left = (loop config rules fixer first).state.last

/-! ## Ways to end -/

/-- The passes that are made of the representations, in order. -/
abbrev Treated (registry : Registry c) (config : Config) (parser : Parser (c.shape kind)) :
    List (Representation (c.shape kind).Doc) → List (Pass (c.shape kind)) → Prop :=
  List.Forall₂ fun r pass => treat registry config parser r = .ok pass

/-- Why a run fails on a representation: its pass is not made, or it is not saved. -/
inductive FailsOn (registry : Registry c) (config : Config) (parser : Parser (c.shape kind))
    (files : FileTree) (r : Representation (c.shape kind).Doc) : EngineError → Prop
  | treat {e : EngineError} : treat registry config parser r = .error e →
    FailsOn registry config parser files r e
  | save {pass : Pass (c.shape kind)} {e : ParseError} :
    FileRun.treat registry config parser r = .ok pass → pass.save parser files = .error e →
    FailsOn registry config parser files r (.parse e)

/-- The outcome before the first pass. -/
def start (parser : Parser (c.shape kind)) (name : String) (path : Path) : FileOutcome :=
  ⟨path, name, parser.tag, [], 0, false, []⟩

/-- What a run over the file at `path` with the parser `name` can return, and what it leaves of the
files. -/
inductive RunsTo (registry : Registry c) (config : Config) (parser : Parser (c.shape kind))
    (name : String) (path : Path) (files : FileTree) :
    Except EngineError FileOutcome → FileTree → Prop
  | noRules {e : EngineError} : enabledRules registry config kind parser.tag = .error e →
    RunsTo registry config parser name path files (.error e) files
  | unread {e : ParseError} : (parser.parseFile files path).1 = .error e →
    RunsTo registry config parser name path files (.error (.parse e)) files
  | noFixer {e : EngineError} : registry.fixerFor kind parser.tag = .error e →
    RunsTo registry config parser name path files (.error e) files
  /-- The parser cannot write: all diagnostics are reported. -/
  | reported {rules : List (Rule (c.shape kind))}
    {representations : List (Representation (c.shape kind).Doc)} : ¬ parser.canWrite →
    enabledRules registry config kind parser.tag = .ok rules →
    (parser.parseFile files path).1 = .ok representations →
    RunsTo registry config parser name path files
      (.ok { start parser name path with
        unresolved := representations.flatMap fun r =>
          (evaluate config rules r).map fun d => .ofDiagnostic d none }) files
  /-- All passes are saved. -/
  | completed {representations : List (Representation (c.shape kind).Doc)}
    {passes : List (Pass (c.shape kind))} {files' : FileTree} : parser.canWrite →
    (parser.parseFile files path).1 = .ok representations →
    Treated registry config parser representations passes →
    passes.foldlM (Pass.save parser) files = .ok files' →
    RunsTo registry config parser name path files
      (.ok (passes.foldl Pass.record (start parser name path))) files'
  /-- The passes before that of the representation `r` are saved. -/
  | failed {done rest : List (Representation (c.shape kind).Doc)}
    {r : Representation (c.shape kind).Doc} {passes : List (Pass (c.shape kind))}
    {files' : FileTree} {e : EngineError} : parser.canWrite →
    (parser.parseFile files path).1 = .ok (done ++ r :: rest) →
    Treated registry config parser done passes →
    passes.foldlM (Pass.save parser) files = .ok files' →
    FailsOn registry config parser files' r e →
    RunsTo registry config parser name path files (.error e) files'

/-! ## Parts of a run without their log -/

section
variable {α β : Type}

/-- But for what it logs before, the part has the effect on a session. -/
def AmountsTo (part : Run α) (effect : Session → Except EngineError α × Session) : Prop :=
  ∀ session, ∃ log, exec part session = effect ⟨session.files, session.log ++ log⟩

namespace AmountsTo

variable {part : Run α} {next : α → Run β} {rest : Run β}
  {effect : Session → Except EngineError β × Session} {a : α} {e : EngineError}

theorem refl (part : Run α) : AmountsTo part (exec part) :=
  fun session => ⟨[], by rw [List.append_nil]⟩

/-- What is logged first does not count. -/
theorem tell_bind (events : List Event) (h : AmountsTo rest effect) :
    AmountsTo (tell events >>= fun _ => rest) effect := by
  intro session
  obtain ⟨log, hrest⟩ := h ⟨session.files, session.log ++ events⟩
  refine ⟨events ++ log, ?_⟩
  rw [exec_bind, exec_tell, ← List.append_assoc]
  exact hrest

/-- Nor does a part that only returns something. -/
theorem bind (hpart : AmountsTo part fun session => (.ok a, session))
    (hnext : AmountsTo (next a) effect) : AmountsTo (part >>= next) effect := by
  intro session
  obtain ⟨log, hpart⟩ := hpart session
  obtain ⟨log', hnext⟩ := hnext ⟨session.files, session.log ++ log⟩
  refine ⟨log ++ log', ?_⟩
  rw [exec_bind, hpart, ← List.append_assoc]
  exact hnext

/-- A part that fails is the last one. -/
theorem bind_error (hpart : AmountsTo part fun session => (.error e, session)) :
    AmountsTo (part >>= next) fun session => (.error e, session) := by
  intro session
  obtain ⟨log, hpart⟩ := hpart session
  exact ⟨log, by rw [exec_bind, hpart]⟩

end AmountsTo

end

theorem transformAll_amountsTo (registry : Registry c) (tag : Tag) (path : Path)
    (diagnostics : List (Diagnostic (c.shape kind).Payload)) (names : List String)
    (r : Representation (c.shape kind).Doc) :
    AmountsTo (transformAll registry kind tag path diagnostics names r) fun session =>
      (names.foldlM (transformBy registry kind tag diagnostics) r, session) := by
  induction names generalizing r with
  | nil => exact .refl _
  | cons name rest ih =>
    rw [transformAll, List.foldlM_cons, transformBy]
    cases registry.transformerTag? name with
    | none => exact .refl _
    | some target =>
      dsimp only
      by_cases htag : target = tag
      · rw [if_neg (not_not_intro htag), if_pos htag]
        cases registry.transformer kind name with
        | error e => exact .bind_error (.refl _)
        | ok transformer =>
          rw [mk_ok_bind]
          refine .tell_bind _ ?_
          show AmountsTo _ fun session =>
            (((transformer.transform r diagnostics).mapError .plugin).bind _, session)
          cases transformer.transform r diagnostics with
          | error e => exact .refl _
          | ok next => exact ih next
      · rw [if_pos htag, if_neg htag]
        exact .tell_bind _ (ih r)

/-! ## Passes one after the other -/

/-- Writing back saves the pass. -/
theorem exec_writeBack_bind {s : Shape} {α : Type} (parser : Parser s) (pass : Pass s)
    (next : Bool → Run α) (session : Session) :
    exec (writeBack parser pass.first.content pass.final >>= next) session =
      match pass.save parser session.files with
      | .error e => (.error (.parse e), session)
      | .ok files => exec (next pass.Changed) ⟨files, session.log⟩ := by
  unfold writeBack Pass.save
  by_cases h : pass.Changed
  · rw [if_neg h, if_pos h, exec_bind, exec_bind, exec_get]
    dsimp only
    cases parser.write session.files pass.final with
    | error e => rfl
    | ok files =>
      rw [decide_eq_true h]
      rfl
  · rw [if_pos (not_not.1 h), if_neg h, decide_eq_false h]
    rfl

section
variable {rules : List (Rule (c.shape kind))} {fixer : Fixer (c.shape kind)}
  (hrules : enabledRules registry config kind parser.tag = .ok rules)
  (hfixer : registry.fixerFor kind parser.tag = .ok fixer)

include hrules hfixer

theorem treat_of_error {first : Representation (c.shape kind).Doc} {e : EngineError}
    (h : (loop config rules fixer first).result = .error e) :
    treat registry config parser first = .error e := by
  rw [treat, hrules, hfixer]
  show ((loop config rules fixer first).result).bind _ = _
  rw [h]
  rfl

theorem treat_of_ok {first : Representation (c.shape kind).Doc} {ending : LoopEnd}
    (h : (loop config rules fixer first).result = .ok ending) :
    treat registry config parser first =
      (config.transformers.foldlM (transformBy registry kind parser.tag
        (loop config rules fixer first).state.last.diagnostics)
        (loop config rules fixer first).content).map fun final =>
          ⟨first, (loop config rules fixer first).content, ending,
            (loop config rules fixer first).state.applied,
            (loop config rules fixer first).state.last, final⟩ := by
  rw [treat, hrules, hfixer]
  show ((loop config rules fixer first).result).bind _ = _
  rw [h]
  rfl

theorem ofLoop_of_treat {first : Representation (c.shape kind).Doc} {pass : Pass (c.shape kind)}
    (h : treat registry config parser first = .ok pass) :
    pass.OfLoop config rules fixer first ∧
      config.transformers.foldlM
        (transformBy registry kind parser.tag pass.left.diagnostics) pass.fixed =
          .ok pass.final := by
  cases hresult : (loop config rules fixer first).result with
  | error e =>
    rw [treat_of_error hrules hfixer hresult] at h
    cases h
  | ok ending =>
    rw [treat_of_ok hrules hfixer hresult] at h
    cases hfinal : config.transformers.foldlM (transformBy registry kind parser.tag
        (loop config rules fixer first).state.last.diagnostics)
        (loop config rules fixer first).content with
    | error e =>
      rw [hfinal] at h
      cases h
    | ok final =>
      rw [hfinal] at h
      cases h
      exact ⟨⟨rfl, hresult, rfl, rfl, rfl⟩, hfinal⟩

/-- Of the representations that are left the first one goes through its pass and is saved. -/
theorem fixAll_cons_amountsTo (path : Path) (first : Representation (c.shape kind).Doc)
    (rest : List (Representation (c.shape kind).Doc)) (outcome : FileOutcome) :
    AmountsTo (fixAll registry config kind parser rules fixer path (first :: rest) outcome)
      fun session =>
        match treat registry config parser first with
        | .error e => (.error e, session)
        | .ok pass =>
          match pass.save parser session.files with
          | .error e => (.error (.parse e), session)
          | .ok files =>
            exec (fixAll registry config kind parser rules fixer path rest
              (Pass.record outcome pass))
              ⟨files, session.log⟩ := by
  rw [fixAll]
  refine .tell_bind _ ?_
  cases hresult : (loop config rules fixer first).result with
  | error e =>
    rw [treat_of_error hrules hfixer hresult]
    exact .refl _
  | ok ending =>
    rw [treat_of_ok hrules hfixer hresult]
    refine .tell_bind _ ?_
    have htransform := transformAll_amountsTo registry parser.tag path
      (loop config rules fixer first).state.last.diagnostics config.transformers
      (loop config rules fixer first).content
    cases hfinal : config.transformers.foldlM (transformBy registry kind parser.tag
        (loop config rules fixer first).state.last.diagnostics)
        (loop config rules fixer first).content with
    | error e =>
      rw [hfinal] at htransform
      exact .bind_error htransform
    | ok final =>
      rw [hfinal] at htransform
      refine .bind htransform fun session => ⟨[], ?_⟩
      rw [List.append_nil]
      exact exec_writeBack_bind parser ⟨first, (loop config rules fixer first).content, ending,
        (loop config rules fixer first).state.applied,
        (loop config rules fixer first).state.last, final⟩ _ session

/-- The passes of the representations are saved one after the other, of all of them or of those
before one that the run fails on. -/
theorem exists_treated (path : Path)
    (representations : List (Representation (c.shape kind).Doc)) (outcome : FileOutcome)
    (session : Session) : ∃ done rest passes files log,
    representations = done ++ rest ∧ Treated registry config parser done passes ∧
    passes.foldlM (Pass.save parser) session.files = .ok files ∧
    (rest = [] ∧
        exec (fixAll registry config kind parser rules fixer path representations outcome)
          session = (.ok (passes.foldl Pass.record outcome), ⟨files, log⟩) ∨
      ∃ r after e, rest = r :: after ∧ FailsOn registry config parser files r e ∧
        exec (fixAll registry config kind parser rules fixer path representations outcome)
          session = (.error e, ⟨files, log⟩)) := by
  -- The outcome and the session are those that the passes before have left.
  induction representations generalizing outcome session with
  | nil => exact ⟨[], [], [], session.files, session.log, rfl, .nil, rfl, .inl ⟨rfl, rfl⟩⟩
  | cons first rest ih =>
    obtain ⟨log, hexec⟩ := fixAll_cons_amountsTo hrules hfixer path first rest outcome session
    cases htreat : treat registry config parser first with
    | error e =>
      rw [htreat] at hexec
      exact ⟨[], first :: rest, [], session.files, _, rfl, .nil, rfl,
        .inr ⟨first, rest, e, rfl, .treat htreat, hexec⟩⟩
    | ok pass =>
      rw [htreat] at hexec
      dsimp only at hexec
      cases hsave : pass.save parser session.files with
      | error e =>
        rw [hsave] at hexec
        exact ⟨[], first :: rest, [], session.files, _, rfl, .nil, rfl,
          .inr ⟨first, rest, .parse e, rfl, .save htreat hsave, hexec⟩⟩
      | ok files =>
        rw [hsave] at hexec
        obtain ⟨done, left, passes, files', log', rfl, htreated, hsaved, hend⟩ :=
          ih (Pass.record outcome pass) ⟨files, session.log ++ log⟩
        refine ⟨first :: done, left, pass :: passes, files', log', rfl, .cons htreat htreated,
          ?_, ?_⟩
        · rw [List.foldlM_cons, hsave]
          exact hsaved
        · rw [hexec]
          exact hend

end

/-- A pass is made with the enabled rules and the fixer for the parser's tag. -/
theorem exists_of_treat {first : Representation (c.shape kind).Doc} {pass : Pass (c.shape kind)}
    (h : treat registry config parser first = .ok pass) : ∃ rules fixer,
    enabledRules registry config kind parser.tag = .ok rules ∧
    registry.fixerFor kind parser.tag = .ok fixer ∧ pass.OfLoop config rules fixer first ∧
    config.transformers.foldlM
      (transformBy registry kind parser.tag pass.left.diagnostics) pass.fixed =
        .ok pass.final := by
  cases hrules : enabledRules registry config kind parser.tag with
  | error e =>
    rw [treat, hrules] at h
    cases h
  | ok rules =>
    cases hfixer : registry.fixerFor kind parser.tag with
    | error e =>
      rw [treat, hrules, hfixer] at h
      cases h
    | ok fixer => exact ⟨rules, fixer, rfl, rfl, ofLoop_of_treat hrules hfixer h⟩

/-- What a made pass is found to satisfy holds of the pass. -/
theorem of_check_treat {first : Representation (c.shape kind).Doc} {pass : Pass (c.shape kind)}
    {check : Pass (c.shape kind) → Bool}
    (hcheck : (treat registry config parser first).toOption.all check)
    (h : treat registry config parser first = .ok pass) : check pass := by
  rw [h] at hcheck
  exact hcheck

/-! ## Whole runs -/

/-- What a run does after its last pass. -/
def finish (path : Path) (outcome : FileOutcome) : Run FileOutcome := do
  tell [.fixedFile path outcome.applied outcome.unresolved.length]
  return outcome

variable {name : String}

/-- A run looks the rules up and reads the file. Then it reports, or looks the fixer up and goes
through the passes. -/
theorem fixAs_amountsTo (hparser : registry.parser kind name = .ok parser) :
    AmountsTo (fixAs registry config kind name path) fun session =>
      match enabledRules registry config kind parser.tag with
      | .error e => (.error e, session)
      | .ok rules =>
        match (parser.parseFile session.files path).1 with
        | .error e => (.error (.parse e), session)
        | .ok representations =>
          if parser.canWrite then
            match registry.fixerFor kind parser.tag with
            | .error e => (.error e, session)
            | .ok fixer =>
              exec (fixAll registry config kind parser rules fixer path representations
                (start parser name path) >>= finish path) session
          else
            (.ok { start parser name path with
              unresolved := representations.flatMap fun r =>
                (evaluate config rules r).map fun d => .ofDiagnostic d none }, session) := by
  rw [fixAs, hparser, mk_ok_bind, enabledRules]
  cases registry.rulesFor kind parser.tag with
  | error e => exact .bind_error (.refl _)
  | ok all =>
    rw [mk_ok_bind]
    refine .tell_bind _ fun session => ?_
    rw [exec_bind, exec_get]
    dsimp only [Except.map]
    cases parser.parseFile session.files path with
    | mk parsed log =>
      dsimp only
      cases parsed with
      | error e => exact ⟨log, rfl⟩
      | ok representations =>
        cases parser.canWrite with
        | false => exact ⟨log ++ [.readOnlyParser name path], by rw [← List.append_assoc]; rfl⟩
        | true =>
          refine ⟨log, ?_⟩
          cases registry.fixerFor kind parser.tag <;> rfl

/-- However a run ends, it is in one of the ways that `RunsTo` lists. -/
theorem runsTo_exec (hparser : registry.parser kind name = .ok parser) (session : Session) :
    RunsTo registry config parser name path session.files
      (exec (fixAs registry config kind name path) session).1
      (exec (fixAs registry config kind name path) session).2.files := by
  obtain ⟨log, hexec⟩ := fixAs_amountsTo hparser session
  rw [hexec]
  cases hrules : enabledRules registry config kind parser.tag with
  | error e => exact .noRules hrules
  | ok rules =>
    dsimp only
    cases hparsed : (parser.parseFile session.files path).1 with
    | error e => exact .unread hparsed
    | ok representations =>
      dsimp only
      by_cases hwrite : parser.canWrite
      · rw [if_pos hwrite]
        cases hfixer : registry.fixerFor kind parser.tag with
        | error e => exact .noFixer hfixer
        | ok fixer =>
          dsimp only
          obtain ⟨done, rest, passes, files, log', rfl, htreated, hsaved, hend⟩ :=
            exists_treated hrules hfixer path representations (start parser name path)
              ⟨session.files, session.log ++ log⟩
          rcases hend with ⟨rfl, hend⟩ | ⟨r, after, e, rfl, hfails, hend⟩
          · rw [exec_bind, hend]
            rw [List.append_nil] at hparsed
            exact .completed hwrite hparsed htreated hsaved
          · rw [exec_bind, hend]
            exact .failed hwrite hparsed htreated hsaved hfails
      · rw [if_neg hwrite]
        exact .reported hwrite hrules hparsed

/-- A run with a registered parser is one at the kind of its entry. -/
theorem fixFileWith_eq_fixAs {entry : Entry c Parser}
    (hentry : registry.parserEntry? name = some entry) :
    fixFileWith registry config name path = fixAs registry config entry.kind name path ∧
      registry.parser entry.kind name = .ok entry.plugin := by
  rw [fixFileWith, Registry.parser, hentry, Registry.found, Entry.at_kind]
  exact ⟨rfl, rfl⟩

theorem runsTo_of_entry {entry : Entry c Parser} {session session' : Session}
    {result : Except EngineError FileOutcome}
    (hentry : registry.parserEntry? name = some entry)
    (hexec : exec (fixFileWith registry config name path) session = (result, session')) :
    RunsTo registry config entry.plugin name path session.files result session'.files := by
  obtain ⟨heq, hparser⟩ := fixFileWith_eq_fixAs hentry
  have hruns : RunsTo registry config entry.plugin name path session.files
      (exec (fixAs registry config entry.kind name path) session).1
      (exec (fixAs registry config entry.kind name path) session).2.files :=
    runsTo_exec hparser session
  rw [heq] at hexec
  rwa [hexec] at hruns

namespace RunsTo

variable {files files' : FileTree} {outcome : FileOutcome} {e : EngineError}

/-- A run that succeeds has only reported, or has saved the passes of all representations. -/
theorem of_ok (h : RunsTo registry config parser name path files (.ok outcome) files') :
    (¬ parser.canWrite ∧ files' = files ∧ outcome.results = [] ∧ outcome.applied = 0) ∨
    parser.canWrite ∧ ∃ representations passes,
      (parser.parseFile files path).1 = .ok representations ∧
      Treated registry config parser representations passes ∧
      passes.foldlM (Pass.save parser) files = .ok files' ∧
      outcome = passes.foldl Pass.record (start parser name path) := by
  cases h with
  | reported hreadOnly => exact .inl ⟨hreadOnly, rfl, rfl, rfl⟩
  | completed hwrite hparsed htreated hsaved =>
    exact .inr ⟨hwrite, _, _, hparsed, htreated, hsaved, rfl⟩

/-- A run that fails has done nothing, or has saved the passes before the one that failed. -/
theorem of_error (h : RunsTo registry config parser name path files (.error e) files') :
    files' = files ∨ ∃ done r rest passes,
      (parser.parseFile files path).1 = .ok (done ++ r :: rest) ∧
      Treated registry config parser done passes ∧
      passes.foldlM (Pass.save parser) files = .ok files' ∧
      FailsOn registry config parser files' r e := by
  cases h with
  | noRules | unread | noFixer => exact .inl rfl
  | failed hwrite hparsed htreated hsaved hfails =>
    exact .inr ⟨_, _, _, _, hparsed, htreated, hsaved, hfails⟩

end RunsTo

end FileRun

end Emend

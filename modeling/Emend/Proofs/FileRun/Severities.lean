import Emend.Proofs.FileRun.Settled
import Emend.Proofs.FileRun.Spans

/-!
# Severities and runs

A word for the severity of a rule changes what its diagnostics are called, and nothing else. Once
the severities are forgotten (`unrated`) the rules report the same under configurations that differ
only in such words (`Config.Alike`). A round does not look at severities: forgetting them after the
round is the same as having forgotten them before it (`roundOn_unrated`). The same is then true of
whole loops (`loop_unrated`) and, where no transformer is shown the diagnostics, of whole runs
(`fixAs_unrated`), down to the log.
-/

namespace Emend

/-! ## Configurations -/

/-- What is said of a rule is at most how severe its diagnostics are. -/
def RuleOption.Rates : Option RuleOption → Prop
  | none => True
  | some (.enabled on) => on
  | some (.severity word) => word ≠ "off"
  | some (.options _) => False

/-- The configurations differ only in how severe the diagnostics of some rules are said to be. -/
structure Config.Alike (config config' : Config) : Prop where
  policy_eq : config.policy = config'.policy
  maxIterations_eq : config.maxIterations = config'.maxIterations
  transformers_eq : config.transformers = config'.transformers
  locale_eq : config.locale = config'.locale
  rules : ∀ name, config.rules.get? name = config'.rules.get? name ∨
    RuleOption.Rates (config.rules.get? name) ∧ RuleOption.Rates (config'.rules.get? name)

namespace RuleOption.Rates

variable {option : Option RuleOption}

/-- The rule runs. -/
theorem isEnabled (h : Rates option) : option.all RuleOption.isEnabled := by
  cases option with
  | none => rfl
  | some option =>
    cases option with
    | enabled on => exact h
    | severity word => exact bne_iff_ne.2 h
    | options value => exact h.elim

/-- The rule gets no parameters. -/
theorem parameters_eq (h : Rates option) :
    (option.map RuleOption.parameters).getD .null = .null := by
  cases option with
  | none => rfl
  | some option =>
    cases option with
    | enabled on => rfl
    | severity word => rfl
    | options value => exact h.elim

end RuleOption.Rates

/-- If none of the options does more than that, what is said of any rule does not. -/
theorem RuleOption.rates_get? {rules : RuleOptions}
    (h : ∀ member ∈ rules.toList, Rates (some member.2)) (name : String) :
    Rates (rules.get? name) := by
  unfold RuleOptions.get?
  cases hlookup : rules.toList.lookup name with
  | none => trivial
  | some option =>
    obtain ⟨front, back, heq, -⟩ := List.lookup_eq_some_iff.1 hlookup
    exact h (name, option) (by simp [heq])

namespace Config.Alike

variable {config config' : Config} (h : config.Alike config')
include h

theorem isRuleEnabled_eq (name : String) :
    config.isRuleEnabled name = config'.isRuleEnabled name := by
  unfold isRuleEnabled
  rcases h.rules name with heq | ⟨hrates, hrates'⟩
  · rw [heq]
  · rw [hrates.isEnabled, hrates'.isEnabled]

theorem ruleParameters_eq (name : String) :
    config.ruleParameters name = config'.ruleParameters name := by
  unfold ruleParameters
  rcases h.rules name with heq | ⟨hrates, hrates'⟩
  · rw [heq]
  · rw [hrates.parameters_eq, hrates'.parameters_eq]

end Config.Alike

/-! ## Forgetting the severities -/

/-- The diagnostic without its severity. -/
def Diagnostic.unrated {P : Type} (d : Diagnostic P) : Diagnostic P := { d with severity := .error }

/-- The finding without its severity. -/
def Finding.unrated (finding : Finding) : Finding := { finding with severity := .error }

/-- The outcome without the severities of its findings. -/
def FileOutcome.unrated (outcome : FileOutcome) : FileOutcome :=
  { outcome with unresolved := outcome.unresolved.map .unrated }

/-- Findings that are the same without their severities differ in nothing else. -/
theorem Finding.eq_of_unrated {f f' : Finding} (h : f.unrated = f'.unrated) :
    f' = { f with severity := f'.severity } := by
  cases f
  cases f'
  simp only [unrated, Finding.mk.injEq] at h ⊢
  simp [h]

/-- Outcomes that are the same without the severities have the same findings but for these, and
differ in nothing else. -/
theorem FileOutcome.eq_of_unrated {outcome outcome' : FileOutcome}
    (h : outcome.unrated = outcome'.unrated) :
    outcome' = { outcome with unresolved := outcome'.unresolved } ∧
      List.Forall₂ (fun f f' => f' = { f with severity := f'.severity })
        outcome.unresolved outcome'.unresolved := by
  obtain ⟨hpath, hparser, htag, hresults, hcount, hwritten, hunresolved⟩ := FileOutcome.mk.inj h
  rw [← List.forall₂_eq_eq_eq, List.forall₂_map_left_iff, List.forall₂_map_right_iff]
    at hunresolved
  refine ⟨?_, hunresolved.imp fun _ _ => Finding.eq_of_unrated⟩
  rw [hpath, hparser, htag, hresults, hcount, hwritten]

namespace FileRun

/-- Runs that come to the same without the severities fail with the same error, or both have an
outcome. -/
theorem of_map_unrated {result result' : Except EngineError FileOutcome}
    (h : result.map FileOutcome.unrated = result'.map FileOutcome.unrated) :
    (∃ e, result = .error e ∧ result' = .error e) ∨
      ∃ outcome outcome', result = .ok outcome ∧ result' = .ok outcome' ∧
        outcome.unrated = outcome'.unrated := by
  cases result with
  | error e =>
    cases result' with
    | error e' =>
      obtain rfl := Except.error.inj h
      exact .inl ⟨e, rfl, rfl⟩
    | ok outcome' => cases h
  | ok outcome =>
    cases result' with
    | error e' => cases h
    | ok outcome' => exact .inr ⟨outcome, outcome', rfl, rfl, Except.ok.inj h⟩

section
variable {P : Type}

/-- What a round has left without the severities. -/
def Round.unrated (left : Round P) : Round P :=
  ⟨left.diagnostics.map .unrated, left.findings.map .unrated⟩

/-- What the rounds add up to without the severities. -/
def Progress.unrated (progress : Progress P) : Progress P :=
  { progress with last := progress.last.unrated }

variable (diagnostics : List (Diagnostic P))

theorem proposals_unrated : proposals (diagnostics.map .unrated) = proposals diagnostics := by
  rw [proposals, proposals, List.zipIdx_map, List.filterMap_map]
  rfl

theorem unresolved_unrated (rejected : List (RejectedFix P)) :
    unresolved (diagnostics.map .unrated) rejected = unresolved diagnostics rejected := by
  unfold unresolved
  rw [proposals_unrated, List.zipIdx_map, List.filterMap_map]
  rfl

theorem ofUnresolved_unrated (left : List (Nat × Option Rejection)) :
    Round.ofUnresolved (diagnostics.map .unrated) left =
      (Round.ofUnresolved diagnostics left).unrated := by
  have hkept : (left.filterMap fun place =>
      (diagnostics.map Diagnostic.unrated)[place.1]?.map fun d => (d, place.2)) =
      (left.filterMap fun place => diagnostics[place.1]?.map fun d => (d, place.2)).map
        fun kept => (kept.1.unrated, kept.2) := by
    rw [List.map_filterMap]
    refine List.filterMap_congr fun place _ => ?_
    rw [List.getElem?_map, Option.map_map, Option.map_map]
    rfl
  calc Round.ofUnresolved (diagnostics.map .unrated) left
    _ = ⟨(left.filterMap fun place =>
          (diagnostics.map Diagnostic.unrated)[place.1]?.map fun d => (d, place.2)).map Prod.fst,
        (left.filterMap fun place =>
          (diagnostics.map Diagnostic.unrated)[place.1]?.map fun d => (d, place.2)).map
            fun kept => .ofDiagnostic kept.1 kept.2⟩ := rfl
    _ = (Round.ofUnresolved diagnostics left).unrated := by
      rw [hkept, List.map_map, List.map_map, Round.unrated, Round.ofUnresolved, List.map_map,
        List.map_map]
      rfl

end

/-! ## Rounds -/

section
variable {s : Shape} {config config' : Config} {rules : List (Rule s)} {fixer : Fixer s}

/-- Under configurations that are alike the rules report the same, but for the severities. -/
theorem unrated_evaluate (h : config.Alike config') (r : Representation s.Doc) :
    (evaluate config rules r).map Diagnostic.unrated =
      (evaluate config' rules r).map Diagnostic.unrated := by
  have hrule : ∀ rule : Rule s, (evaluateRule config r rule).map Diagnostic.unrated =
      (evaluateRule config' r rule).map Diagnostic.unrated := by
    intro rule
    rw [evaluateRule, evaluateRule, h.locale_eq, h.ruleParameters_eq, List.map_map, List.map_map]
    rfl
  rw [evaluate, evaluate, List.map_flatMap, List.map_flatMap]
  exact congrArg (rules.flatMap ·) (funext hrule)

theorem unrated_flatMap_evaluate (h : config.Alike config') (rules : List (Rule s))
    (representations : List (Representation s.Doc)) :
    (representations.flatMap fun r =>
      (evaluate config rules r).map fun d => Finding.ofDiagnostic d none).map Finding.unrated =
    (representations.flatMap fun r =>
      (evaluate config' rules r).map fun d => Finding.ofDiagnostic d none).map Finding.unrated := by
  have hfindings : ∀ (config : Config) (r : Representation s.Doc),
      ((evaluate config rules r).map fun d => Finding.ofDiagnostic d none).map Finding.unrated =
        ((evaluate config rules r).map Diagnostic.unrated).map fun d => .ofDiagnostic d none := by
    intro config r
    rw [List.map_map, List.map_map]
    rfl
  rw [List.map_flatMap, List.map_flatMap]
  refine congrArg (representations.flatMap ·) (funext fun r => ?_)
  rw [hfindings, hfindings, unrated_evaluate h]

/-- A round in which the diagnostics are found by `diagnose`. -/
def roundOn (policy : SamePointPolicy) (fixer : Fixer s)
    (diagnose : Representation s.Doc → List (Diagnostic s.Payload))
    (progress : Progress s.Payload) (r : Representation s.Doc) :
    Stepped (Progress s.Payload) EngineError (Representation s.Doc) :=
  let diagnostics := diagnose r
  let edited := fixer.applyWith r ((proposals diagnostics).map Prod.fst) policy
  let log := progress.log ++ edited.log
  match edited.result with
  | .error e => ⟨.error (.fixer e), edited.content, { progress with log }⟩
  | .ok report =>
    let left := unresolved diagnostics report.rejected
    ⟨.ok report.modified, edited.content,
      ⟨progress.applied + report.appliedCount, .ofUnresolved diagnostics left, log⟩⟩

theorem round_eq_roundOn :
    round config rules fixer = roundOn config.policy fixer (evaluate config rules) := rfl

/-- To forget the severities after a round is to have forgotten them before it. -/
theorem roundOn_unrated (policy : SamePointPolicy)
    (diagnose : Representation s.Doc → List (Diagnostic s.Payload))
    (progress : Progress s.Payload) (r : Representation s.Doc) :
    roundOn policy fixer (fun r => (diagnose r).map .unrated) progress.unrated r =
      (roundOn policy fixer diagnose progress r).viewed Progress.unrated := by
  unfold roundOn
  dsimp only
  rw [proposals_unrated]
  cases (fixer.applyWith r ((proposals (diagnose r)).map Prod.fst) policy).result with
  | error e => rfl
  | ok report =>
    dsimp only
    rw [unresolved_unrated, ofUnresolved_unrated]
    rfl

theorem loop_unrated (h : config.Alike config') (rules : List (Rule s)) (fixer : Fixer s)
    (r : Representation s.Doc) :
    (loop config rules fixer r).viewed Progress.unrated =
      (loop config' rules fixer r).viewed Progress.unrated := by
  have hview : ∀ config : Config,
      (loop config rules fixer r).viewed Progress.unrated =
        FixLoop.run (fun r => s.fingerprint r.content) config.maxIterations
          (roundOn config.policy fixer fun r => (evaluate config rules r).map .unrated)
          ⟨0, ⟨[], []⟩, []⟩ r := by
    intro config
    rw [loop, round_eq_roundOn]
    exact (FixLoop.run_viewed (roundOn_unrated config.policy (evaluate config rules)) _ _ _ _).symm
  rw [hview, hview, h.policy_eq, h.maxIterations_eq, funext (unrated_evaluate h)]

end

/-! ## Runs -/

theorem exec_map {α β : Type} (f : α → β) (part : Run α) (session : Session) :
    exec (f <$> part) session = ((exec part session).1.map f, (exec part session).2) := by
  rw [map_eq_pure_bind, exec_bind]
  obtain ⟨result, session'⟩ := exec part session
  cases result <;> rfl

section
variable {c : Catalogue} {registry : Registry c} {config config' : Config} {kind : Kind c.Custom}
  {parser : Parser (c.shape kind)} {name : String} {path : Path}

theorem fixAll_unrated (h : config.Alike config') (hplain : config.transformers = [])
    (rules : List (Rule (c.shape kind))) (fixer : Fixer (c.shape kind))
    (representations : List (Representation (c.shape kind).Doc)) {outcome outcome' : FileOutcome}
    (houtcome : outcome.unrated = outcome'.unrated) :
    FileOutcome.unrated <$>
        fixAll registry config kind parser rules fixer path representations outcome =
      FileOutcome.unrated <$>
        fixAll registry config' kind parser rules fixer path representations outcome' := by
  induction representations generalizing outcome outcome' with
  | nil => rw [fixAll, fixAll, map_pure, map_pure, houtcome]
  | cons first rest ih =>
    have hview := loop_unrated h rules fixer first
    rw [fixAll, fixAll]
    generalize loop config rules fixer first = looped at hview ⊢
    generalize loop config' rules fixer first = looped' at hview ⊢
    have hresult : looped.result = looped'.result := congrArg (fun done => done.result) hview
    have hcontent : looped.content = looped'.content := congrArg (fun done => done.content) hview
    have hlog : looped.state.log = looped'.state.log :=
      congrArg (fun done => done.state.log) hview
    have happlied : looped.state.applied = looped'.state.applied :=
      congrArg (fun done => done.state.applied) hview
    have hfindings : looped.state.last.findings.map Finding.unrated =
        looped'.state.last.findings.map Finding.unrated :=
      congrArg (fun done => done.state.last.findings) hview
    have hplain' : config'.transformers = [] := h.transformers_eq ▸ hplain
    rw [hlog, hresult, hcontent, hplain, hplain', map_bind, map_bind]
    refine bind_congr fun _ => ?_
    cases looped'.result with
    | error e => rfl
    | ok ending =>
      dsimp only
      simp only [transformAll, map_bind, pure_bind]
      refine bind_congr fun _ => bind_congr fun written => ih ?_
      obtain ⟨hpath, hparser, htag, hresults, hcount, hwritten, hunresolved⟩ :=
        FileOutcome.mk.inj houtcome
      simp only [FileOutcome.unrated, List.map_append, hpath, hparser, htag, hresults, hcount,
        hwritten, hunresolved, happlied, hfindings]

theorem finish_unrated (outcome : FileOutcome) :
    FileOutcome.unrated <$> finish path outcome = finish path outcome.unrated := by
  rw [finish, finish, map_bind]
  simp [FileOutcome.unrated]

theorem fixAs_unrated (h : config.Alike config') (hplain : config.transformers = []) :
    FileOutcome.unrated <$> fixAs registry config kind name path =
      FileOutcome.unrated <$> fixAs registry config' kind name path := by
  have henabled (rules : List (Rule (c.shape kind))) :
      enabled config rules = enabled config' rules :=
    enabled_congr fun rule _ => h.isRuleEnabled_eq rule.name
  have hfinish : ∀ part : Run FileOutcome, (part >>= fun outcome => finish path outcome.unrated) =
      (FileOutcome.unrated <$> part) >>= finish path := fun part =>
    (bind_map_left FileOutcome.unrated part (finish path)).symm
  unfold fixAs
  simp only [map_bind, henabled]
  refine bind_congr fun parser => bind_congr fun all => bind_congr fun _ =>
    bind_congr fun session => bind_congr fun _ => ?_
  cases (parser.parseFile session.files path).1 with
  | error e => rfl
  | ok representations =>
    cases parser.canWrite with
    | false =>
      show FileOutcome.unrated <$> (tell _ >>= fun _ => pure _) =
        FileOutcome.unrated <$> (tell _ >>= fun _ => pure _)
      simp only [map_bind, map_pure, FileOutcome.unrated]
      rw [unrated_flatMap_evaluate h]
    | true =>
      show FileOutcome.unrated <$> (_ >>= fun fixer => fixAll registry config kind parser _ fixer
          path representations (start parser name path) >>= finish path) =
        FileOutcome.unrated <$> (_ >>= fun fixer => fixAll registry config' kind parser _ fixer
          path representations (start parser name path) >>= finish path)
      simp only [map_bind, finish_unrated]
      refine bind_congr fun fixer => ?_
      rw [hfinish, hfinish, fixAll_unrated h hplain _ fixer representations rfl]

/-- Under two configurations without transformers that differ only in how severe the diagnostics of
some rules are said to be, a run leaves the same files and the same log, and it fails with the same
error or comes to the same outcome, but for the severities of the findings. -/
theorem fixFileWith_of_alike (h : config.Alike config') (hplain : config.transformers = [])
    (session : Session) :
    let run := exec (fixFileWith registry config name path) session
    let run' := exec (fixFileWith registry config' name path) session
    run'.2 = run.2 ∧
    ((∃ e, run.1 = .error e ∧ run'.1 = .error e) ∨
      ∃ outcome outcome', run.1 = .ok outcome ∧ run'.1 = .ok outcome' ∧
        outcome' = { outcome with unresolved := outcome'.unresolved } ∧
        List.Forall₂ (fun f f' => f' = { f with severity := f'.severity })
          outcome.unresolved outcome'.unresolved) := by
  intro run run'
  have hunrated : FileOutcome.unrated <$> fixFileWith registry config name path =
      FileOutcome.unrated <$> fixFileWith registry config' name path := by
    unfold fixFileWith
    cases registry.parserEntry? name with
    | none => rfl
    | some entry => exact fixAs_unrated h hplain
  have hexec := congrArg (exec · session) hunrated
  simp only [exec_map] at hexec
  obtain ⟨hresult, hsession⟩ := Prod.ext_iff.1 hexec
  refine ⟨hsession.symm, ?_⟩
  refine (of_map_unrated hresult).imp id ?_
  rintro ⟨outcome, outcome', hrun, hrun', houtcome⟩
  exact ⟨outcome, outcome', hrun, hrun', FileOutcome.eq_of_unrated houtcome⟩

end

/-- One rule is switched on or called a warning, another one is left out or given a word that is not
the name of a severity, and the findings of a third become informations. -/
theorem fixFileWith_of_alike_words :
    let registry : Registry .plain := { Registry.builtins.registry with
      rules := [⟨.text, .text, claimFront "x"⟩, ⟨.text, .text, capital⟩,
        ⟨.text, .text, lastByte⟩, ⟨.text, .text, claimFront "y"⟩] }
    let config : Config := { policy := .rejectAll, rules := ⟨[("capital", .enabled true)]⟩ }
    let config' : Config := { policy := .rejectAll, rules := ⟨[("capital", .severity "warning"),
      ("last byte", .severity "info"), ("y", .severity "loud"), ("x", .severity "warn")]⟩ }
    let files := FileTree.empty.install ⟨"a.txt"⟩ (.file "ab".toUTF8)
    let done := exec (fixFileWith registry config "string" ⟨"a.txt"⟩) ⟨files, []⟩
    let done' := exec (fixFileWith registry config' "string" ⟨"a.txt"⟩) ⟨files, []⟩
    let findings (x lastByte y : Severity) : List Finding :=
      [⟨"x", "not in front", ⟨0, 0⟩, x, some (.conflict ⟨0, 0⟩ "y" ⟨0, 0⟩)⟩,
        ⟨"last byte", "a byte", ⟨1, 2⟩, lastByte, none⟩,
        ⟨"y", "not in front", ⟨0, 0⟩, y, some (.conflict ⟨0, 0⟩ "x" ⟨0, 0⟩)⟩]
    config.Alike config' ∧
    done.1 = .ok ⟨⟨"a.txt"⟩, "string", .text, [.converged 2], 1, true,
      findings .error .error .error⟩ ∧
    done'.1 = .ok ⟨⟨"a.txt"⟩, "string", .text, [.converged 2], 1, true,
      findings .warning .info .error⟩ ∧
    done'.2 = done.2 := by
  intro registry config config' files done done' findings
  have halike : config.Alike config' := by
    refine ⟨rfl, rfl, rfl, rfl, fun name => .inr ⟨?_, ?_⟩⟩ <;>
      exact RuleOption.rates_get? (by simp [config, config', RuleOption.Rates]) name
  have hdone : done.1 = .ok ⟨⟨"a.txt"⟩, "string", .text, [.converged 2], 1, true,
      findings .error .error .error⟩ := by decide +kernel
  have hdone' : done'.1 = .ok ⟨⟨"a.txt"⟩, "string", .text, [.converged 2], 1, true,
      findings .warning .info .error⟩ := by decide +kernel
  obtain ⟨hsession, -⟩ := fixFileWith_of_alike halike rfl ⟨files, []⟩
  exact ⟨halike, hdone, hdone', hsession⟩

end FileRun

end Emend

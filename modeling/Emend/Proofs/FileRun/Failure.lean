import Emend.Proofs.Batch.Interrupted
import Emend.Proofs.FileRun.Session
import Emend.Proofs.Loop.Rounds
import Emend.Proofs.Registry.Coherence

/-!
# Why fixing a file fails

A run looks its rules, its fixer and its transformers up by the parser's tag, and wants each for the
parser's kind of documents. In a coherent registry that is the kind that the tag is bound to, so
that these look-ups find a plugin of the kind or none at all (`supports_of_mem_parsers`), and a run
fails for one of a few reasons (`Cause`): a plugin that is not there, or what the parser, the fixer
or a transformer itself fails with. A fixer that is not meant for a representation is among them
only where the parser gave the representation another tag than its own (`Cause.tag_ne`).
-/

namespace Emend

/-! ## The errors of a batch -/

namespace Batch

variable {s : Shape} {expected found : Tag}

theorem spliceAll_ne_unsupported {shift : Shift} {doc : s.Doc} {fixes : List (Fix s.Payload)} :
    (spliceAll s shift doc fixes).result ≠ .error (.unsupportedRepresentation expected found) := by
  intro h
  obtain ⟨_, _, _, _, _, _, hrefuses⟩ := exists_refused h
  cases hrefuses

end Batch

namespace Fixer

variable {s : Shape} {fixer : Fixer s} {r : Representation s.Doc} {fixes : List (Fix s.Payload)}
  {policy : SamePointPolicy}

/-- A fixer does not apply a batch to what has another tag, and says so of nothing else. -/
theorem tag_of_unsupported {expected found : Tag}
    (h : (fixer.applyWith r fixes policy).result =
      .error (.unsupportedRepresentation expected found)) :
    expected = fixer.tag ∧ found = r.tag ∧ r.tag ≠ fixer.tag := by
  by_cases htag : r.tag = fixer.tag
  · rw [result_applyWith htag] at h
    cases hdone : (Batch.spliceAll s .zero r.content
        (Batch.verdict s r.content fixes policy).accepted).result with
    | error cause =>
      rw [hdone] at h
      cases h
      exact absurd hdone Batch.spliceAll_ne_unsupported
    | ok shift =>
      rw [hdone] at h
      cases h
  · rw [applyWith, if_pos htag] at h
    cases h
    exact ⟨rfl, rfl, htag⟩

theorem exists_withContent (fixer : Fixer s) (r : Representation s.Doc)
    (fixes : List (Fix s.Payload)) (policy : SamePointPolicy) :
    ∃ content, (fixer.applyWith r fixes policy).content = r.withContent content := by
  unfold applyWith
  split
  · exact ⟨r.content, rfl⟩
  · exact ⟨_, rfl⟩

end Fixer

namespace Registry

variable {c : Catalogue} {P : Shape → Type} {kind : Kind c.Custom}

/-- An entry that is there is never reported as missing. -/
theorem eq_none_of_notFound {name : String} {o : Option (Entry c P)} {e : PluginError}
    (h : found name kind o = .error (.plugin e)) : o = none := by
  cases o with
  | none => rfl
  | some entry =>
    rw [found, Entry.at] at h
    split at h <;> cases h

end Registry

namespace FileRun

variable {s : Shape}

/-! ## The errors of the fix loop -/

section
variable {config : Config} {rules : List (Rule s)} {fixer : Fixer s}

theorem content_round (progress : Progress s.Payload) (r : Representation s.Doc) :
    (round config rules fixer progress r).content =
      (fixer.applyWith r ((proposals (evaluate config rules r)).map Prod.fst)
        config.policy).content := by
  unfold round
  dsimp only
  split <;> rfl

theorem error_of_round {progress : Progress s.Payload} {r : Representation s.Doc} {e : EngineError}
    (h : (round config rules fixer progress r).result = .error e) :
    ∃ fixes cause, (fixer.applyWith r fixes config.policy).result = .error cause ∧
      e = .fixer cause := by
  unfold round at h
  dsimp only at h
  split at h
  · next cause hcause =>
    cases h
    exact ⟨_, cause, hcause, rfl⟩
  · cases h

/-- The rounds change nothing of a representation but its content. -/
theorem exists_withContent_trace (progress : Progress s.Payload) (r : Representation s.Doc)
    (k : Nat) :
    ∃ content, (FixLoop.trace (round config rules fixer) progress r k).content =
      r.withContent content := by
  induction k with
  | zero => exact ⟨r.content, rfl⟩
  | succ k ih =>
    obtain ⟨content, hcontent⟩ := ih
    rw [FixLoop.trace, hcontent, content_round]
    exact fixer.exists_withContent (r.withContent content) _ config.policy

/-- A loop fails with the error of a batch, applied to the representation as a round left it. -/
theorem error_of_loop {r : Representation s.Doc} {e : EngineError}
    (h : (loop config rules fixer r).result = .error e) :
    ∃ content fixes cause,
      (fixer.applyWith (r.withContent content) fixes config.policy).result = .error cause ∧
        e = .fixer cause := by
  obtain ⟨k, hk⟩ := FixLoop.exists_finished (fun r => s.fingerprint r.content)
    config.maxIterations (round config rules fixer) ⟨0, ⟨[], []⟩, []⟩ r
  have hanswers := hk.answers
  rw [show (FixLoop.run _ _ _ _ _).result = _ from h] at hanswers
  cases hanswers with
  | failed hfailed =>
    obtain ⟨hpos, -⟩ := hk.isLeast.1
    obtain ⟨j, rfl⟩ := Nat.exists_eq_add_of_le' hpos
    obtain ⟨content, hcontent⟩ := exists_withContent_trace ⟨0, ⟨[], []⟩, []⟩ r j
    rw [FixLoop.trace, hcontent] at hfailed
    exact ⟨content, error_of_round hfailed⟩

end

/-! ## The errors of a run -/

variable {c : Catalogue} {registry : Registry c} {config : Config} {kind : Kind c.Custom}
  {parser : Parser (c.shape kind)} {files : FileTree} {path : Path}

/-- The plugins that a registry has for the tag of a parser are for the parser's documents. -/
structure Supports (registry : Registry c) (parser : Parser (c.shape kind)) : Prop where
  found : registry.parser kind parser.name = .ok parser
  rules : ∃ rules, registry.rulesFor kind parser.tag = .ok rules
  fixer : (∃ fixer, registry.fixerFor kind parser.tag = .ok fixer ∧ fixer.tag = parser.tag) ∨
    registry.fixerFor kind parser.tag =
      .error (.plugin (.notFound (Registry.fixerName parser.tag)))
  transformer : ∀ name, registry.transformerTag? name = some parser.tag →
    ∃ transformer, registry.transformer kind name = .ok transformer

/-- Why a run with the parser over the file at `path` may fail. -/
inductive Cause (registry : Registry c) (config : Config) (parser : Parser (c.shape kind))
    (files : FileTree) (path : Path) : EngineError → Prop
  /-- The parser does not read the file. -/
  | unread {e : ParseError} : (parser.parseFile files path).1 = .error e →
    Cause registry config parser files path (.parse e)
  /-- There is no fixer for what the parser could write. -/
  | noFixer : parser.canWrite → registry.fixerEntry? parser.tag = none →
    Cause registry config parser files path
      (.plugin (.notFound (Registry.fixerName parser.tag)))
  /-- A batch cannot be applied to a representation as the rounds before have left it. -/
  | batch {fixer : Fixer (c.shape kind)} {r : Representation (c.shape kind).Doc}
    {representations : List (Representation (c.shape kind).Doc)} {content : (c.shape kind).Doc}
    {fixes : List (Fix (c.shape kind).Payload)} {e : FixerError} :
    registry.fixerFor kind parser.tag = .ok fixer → fixer.tag = parser.tag →
    (parser.parseFile files path).1 = .ok representations → r ∈ representations →
    (fixer.applyWith (r.withContent content) fixes config.policy).result = .error e →
    Cause registry config parser files path (.fixer e)
  /-- A configured transformer is not there. -/
  | noTransformer {name : String} : name ∈ config.transformers →
    registry.transformerEntry? name = none →
    Cause registry config parser files path (.plugin (.notFound name))
  /-- A configured transformer fails. -/
  | transform {name : String} {transformer : Transformer (c.shape kind)}
    {r : Representation (c.shape kind).Doc}
    {diagnostics : List (Diagnostic (c.shape kind).Payload)} {e : PluginError} :
    name ∈ config.transformers → registry.transformer kind name = .ok transformer →
    transformer.transform r diagnostics = .error e →
    Cause registry config parser files path (.plugin e)
  /-- The parser does not write a representation back. -/
  | unwritten {files' : FileTree} {r : Representation (c.shape kind).Doc} {e : ParseError} :
    parser.write files' r = .error e → Cause registry config parser files path (.parse e)

/-- A plugin that is not meant for what it is used on is a fixer, and what it is used on has a tag
that is not the parser's. -/
theorem Cause.tag_ne {expected found : Tag} (h : Cause registry config parser files path
      (.fixer (.unsupportedRepresentation expected found))) :
    expected = parser.tag ∧ found ≠ parser.tag ∧
      ∃ representations, (parser.parseFile files path).1 = .ok representations ∧
        ∃ r ∈ representations, r.tag = found := by
  cases h with
  | batch hfixer htag hparsed hmem hfails =>
    obtain ⟨rfl, rfl, hne⟩ := Fixer.tag_of_unsupported hfails
    rw [htag] at hne ⊢
    exact ⟨rfl, hne, _, hparsed, _, hmem, rfl⟩

theorem failsOnlyBy_transformAll (hsupports : Supports registry parser)
    {diagnostics : List (Diagnostic (c.shape kind).Payload)} {names : List String}
    (hnames : ∀ name ∈ names, name ∈ config.transformers)
    (r : Representation (c.shape kind).Doc) :
    FailsOnlyBy (transformAll registry kind parser.tag path diagnostics names r)
      (Cause registry config parser files path) := by
  induction names generalizing r with
  | nil => exact .pure r
  | cons name rest ih =>
    obtain ⟨hname, hrest⟩ := List.forall_mem_cons.1 hnames
    rw [transformAll]
    cases htarget : registry.transformerTag? name with
    | none => exact .throw (.noTransformer hname (Option.map_eq_none_iff.1 htarget))
    | some target =>
      dsimp only
      split
      · exact .bind (.tell _) fun _ => ih hrest r
      · next htag =>
        -- Only a transformer for the parser's tag is looked up at the kind of the documents.
        rw [not_not.1 htag] at htarget
        obtain ⟨transformer, htransformer⟩ := hsupports.transformer name htarget
        rw [htransformer, mk_ok_bind]
        refine .bind (.tell _) fun _ => ?_
        cases htransform : transformer.transform r diagnostics with
        | error e => exact .throw (.transform hname htransformer htransform)
        | ok r => exact ih hrest r

theorem failsOnlyBy_writeBack {first : (c.shape kind).Doc}
    (r : Representation (c.shape kind).Doc) :
    FailsOnlyBy (writeBack parser first r) (Cause registry config parser files path) := by
  unfold writeBack
  split
  · exact .pure false
  · refine .bind .get fun session => ?_
    cases hwrite : parser.write session.files r with
    | error e => exact .throw (.unwritten hwrite)
    | ok files => exact .bind (.set _) fun _ => .pure true

theorem failsOnlyBy_fixAll (hsupports : Supports registry parser)
    {rules : List (Rule (c.shape kind))} {fixer : Fixer (c.shape kind)}
    (hfixer : registry.fixerFor kind parser.tag = .ok fixer) (htag : fixer.tag = parser.tag)
    {parsed representations : List (Representation (c.shape kind).Doc)}
    (hparsed : (parser.parseFile files path).1 = .ok parsed)
    (hmem : ∀ r ∈ representations, r ∈ parsed) (outcome : FileOutcome) :
    FailsOnlyBy (fixAll registry config kind parser rules fixer path representations outcome)
      (Cause registry config parser files path) := by
  induction representations generalizing outcome with
  | nil => exact .pure outcome
  | cons first rest ih =>
    obtain ⟨hfirst, hrest⟩ := List.forall_mem_cons.1 hmem
    rw [fixAll]
    refine .bind (.tell _) fun _ => ?_
    cases hloop : (loop config rules fixer first).result with
    | error e =>
      obtain ⟨content, fixes, cause, hfails, rfl⟩ := error_of_loop hloop
      exact .throw (.batch hfixer htag hparsed hfirst hfails)
    | ok ending =>
      refine .bind (.tell _) fun _ => ?_
      refine .bind (failsOnlyBy_transformAll hsupports (fun _ hname => hname) _) fun r => ?_
      exact .bind (failsOnlyBy_writeBack r) fun _ => ih hrest _

/-- The run with a parser whose look-ups all succeed or find nothing. -/
theorem cause_of_fixAs (hsupports : Supports registry parser) {session : Session} {e : EngineError}
    (h : (exec (fixAs registry config kind parser.name path) session).1 = .error e) :
    Cause registry config parser session.files path e := by
  obtain ⟨all, hall⟩ := hsupports.rules
  rw [fixAs, hsupports.found, mk_ok_bind, hall, mk_ok_bind, exec_bind, exec_tell] at h
  dsimp only at h
  rw [exec_bind, exec_get] at h
  dsimp only at h
  cases hparse : parser.parseFile session.files path with
  | mk parsed log =>
    rw [hparse] at h
    dsimp only at h
    rw [exec_bind, exec_tell] at h
    cases parsed with
    | error e' =>
      cases h
      exact .unread (by rw [hparse])
    | ok representations =>
      dsimp only at h
      split at h
      · cases h
      · next hwrite =>
        rcases hsupports.fixer with ⟨fixer, hfixer, htag⟩ | hnone
        · rw [hfixer, mk_ok_bind] at h
          refine FailsOnlyBy.bind ?_ (fun outcome => .bind (.tell _) fun _ => .pure outcome) _ e h
          exact failsOnlyBy_fixAll hsupports hfixer htag (by rw [hparse]) (fun _ hr => hr) _
        · rw [hnone] at h
          cases h
          exact .noFixer (by simpa using hwrite) (Registry.eq_none_of_notFound hnone)

/-- In a coherent registry each look-up of a run finds a plugin for the parser's documents, or
none. -/
theorem supports_of_mem_parsers (h : registry.Coherent) {entry : Entry c Parser}
    (hmem : entry ∈ registry.parsers) : Supports registry entry.plugin := by
  have hfinds := h.finds_of_mem_parsers hmem
  have hkind : registry.kind? entry.plugin.tag = some entry.kind := by
    rw [← h.parsers.tag_eq entry hmem]
    exact (hfinds.ok_iff entry.kind).1 ⟨entry.plugin, hfinds.found⟩
  refine ⟨hfinds.found, (h.findsRules entry.kind entry.plugin.tag).ok_iff.2 (.inl hkind), ?_, ?_⟩
  · cases hentry : registry.fixerEntry? entry.plugin.tag with
    | none =>
      right
      rw [Registry.fixerFor, hentry, Registry.found]
    | some other =>
      left
      obtain ⟨hother, htag⟩ := Registry.mem_of_find?_eq_some hentry
      have hlookup := (h.finds_of_mem_fixers hother).ok_iff entry.kind
      rw [htag] at hlookup
      obtain ⟨fixer, hfixer⟩ := hlookup.2 hkind
      refine ⟨fixer, hfixer, ?_⟩
      rw [Registry.fixerFor, hentry, Registry.found, Entry.at_eq_ok_iff] at hfixer
      have hown := h.fixers.tag_eq other hother
      rw [hfixer] at hown
      exact hown.symm.trans htag
  · intro name htransformer
    obtain ⟨other, hentry, htag⟩ := Option.map_eq_some_iff.1 htransformer
    obtain ⟨hother, rfl⟩ := Registry.mem_of_find?_eq_some hentry
    have hlookup := (h.finds_of_mem_transformers hother).ok_iff entry.kind
    rw [htag] at hlookup
    exact hlookup.2 hkind

/-- A run with a registered parser looks plugins up only where it finds them or there are none, so
that it fails with what is missing or with what a plugin itself fails with. A mismatch of tags
arises only between a fixer and a representation that the parser did not give its own tag. -/
theorem fixFileWith_fails_only_by_cause (h : registry.Reachable) (config : Config)
    {entry : Entry c Parser} (hmem : entry ∈ registry.parsers) (path : Path) (session : Session) :
    Supports registry entry.plugin ∧
    fixFileWith registry config entry.plugin.name path =
      fixAs registry config entry.kind entry.plugin.name path ∧
    (∀ e, (exec (fixFileWith registry config entry.plugin.name path) session).1 = .error e →
      Cause registry config entry.plugin session.files path e) ∧
    ∀ expected found,
      (exec (fixFileWith registry config entry.plugin.name path) session).1 =
        .error (.fixer (.unsupportedRepresentation expected found)) →
      expected = entry.plugin.tag ∧ found ≠ entry.plugin.tag ∧
        ∃ representations, (entry.plugin.parseFile session.files path).1 = .ok representations ∧
          ∃ r ∈ representations, r.tag = found := by
  have hsupports := supports_of_mem_parsers h.coherent hmem
  have hentry : registry.parserEntry? entry.plugin.name = some entry :=
    Registry.find?_eq_some_of_mem h.coherent.parsers.keys_nodup hmem
  have hrun : fixFileWith registry config entry.plugin.name path =
      fixAs registry config entry.kind entry.plugin.name path := by
    rw [fixFileWith, hentry]
  rw [hrun]
  exact ⟨hsupports, rfl, fun _ => cause_of_fixAs hsupports,
    fun _ _ hfails => (cause_of_fixAs hsupports hfails).tag_ne⟩

/-- A parser that says of a text that it is a tree. -/
def mislabeling : Parser .text where
  name := "mislabeling"
  description := "Takes the whole file for a tree"
  extensions := []
  tag := .text
  parse source path := .ok [⟨⟨"tree"⟩, source, path⟩]
  canWrite := true
  write := Parser.writeTextOf (s := .text) id

/-- Beside the built-in plugins such a parser is supported, but the fixer for texts does not take
what it makes. -/
theorem fixFileWith_fails_only_by_cause_mislabeling :
    let entry : Entry .plain Parser := ⟨.text, .text, mislabeling⟩
    let registry := (Registry.builtins.registry.register (.parser entry.kind entry.plugin)).registry
    let session : Session := ⟨FileTree.empty.install ⟨"a.txt"⟩ (.file "a".toUTF8), []⟩
    registry.Reachable ∧ Supports registry entry.plugin ∧
    (exec (fixFileWith registry .default "mislabeling" ⟨"a.txt"⟩) session).1 =
      .error (.fixer (.unsupportedRepresentation .text ⟨"tree"⟩)) ∧
    Cause registry .default entry.plugin session.files ⟨"a.txt"⟩
      (.fixer (.unsupportedRepresentation .text ⟨"tree"⟩)) ∧
    ∃ representations, (entry.plugin.parseFile session.files ⟨"a.txt"⟩).1 = .ok representations ∧
      ∃ r ∈ representations, r.tag = ⟨"tree"⟩ := by
  intro entry registry session
  have hr : registry.Reachable := .register .builtins _
  have hmem : entry ∈ registry.parsers := by
    rw [show registry.parsers = [⟨.line, .lines, .lines⟩, ⟨.text, .text, .text⟩, entry] from rfl]
    simp
  obtain ⟨hsupports, -, hcause, htags⟩ :=
    fixFileWith_fails_only_by_cause hr .default hmem ⟨"a.txt"⟩ session
  have hfails : (exec (fixFileWith registry .default "mislabeling" ⟨"a.txt"⟩) session).1 =
      .error (.fixer (.unsupportedRepresentation .text ⟨"tree"⟩)) := rfl
  obtain ⟨-, -, hmislabeled⟩ := htags _ _ hfails
  exact ⟨hr, hsupports, hfails, hcause _ hfails, hmislabeled⟩

end FileRun

end Emend

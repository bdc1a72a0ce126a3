import Mathlib.Data.Prod.Basic
import Emend.Proofs.FileRun.Passes
import Emend.Proofs.Parser.BuiltIn

/-!
# What a run leaves on disk

The built-in parsers make one representation of a file, whose text is the file's
(`Parser.BuiltIn`). The loop keeps the path of a representation, and so do the transformers if each
of them does (`KeepPaths`), so that a pass is saved to the place that it was read from. It is
written there if its fingerprint has changed. Where the first and the final content do not collide
(`Pass.CollisionFree`), this is the case exactly if their texts differ, so that the file holds the
final text either way (`save_located`).
-/

namespace Emend

namespace FileRun

variable {c : Catalogue} {registry : Registry c} {config : Config} {kind : Kind c.Custom}
  {parser : Parser (c.shape kind)} {name : String} {path : Path}

/-! ## Paths -/

/-- A loop keeps the tag and the path of a representation. -/
theorem exists_withContent_loop {s : Shape} (config : Config) (rules : List (Rule s))
    (fixer : Fixer s) (first : Representation s.Doc) :
    ∃ content, (loop config rules fixer first).content = first.withContent content := by
  obtain ⟨k, hk⟩ := FixLoop.exists_finished (fun r => s.fingerprint r.content)
    config.maxIterations (round config rules fixer) ⟨0, ⟨[], []⟩, []⟩ first
  obtain ⟨content, hcontent⟩ := exists_withContent_trace ⟨0, ⟨[], []⟩, []⟩ first k
  exact ⟨content, hk.content_eq.trans hcontent⟩

/-- The named transformers leave a representation at the path that it has. -/
def KeepPaths (registry : Registry c) (kind : Kind c.Custom) (names : List String) : Prop :=
  ∀ name ∈ names, ∀ transformer, registry.transformer kind name = .ok transformer →
    ∀ r diagnostics r', transformer.transform r diagnostics = .ok r' → r'.path = r.path

/-- A transformer either does not count or makes what it makes of the representation. -/
theorem of_transformBy {tag : Tag} {diagnostics : List (Diagnostic (c.shape kind).Payload)}
    {r r' : Representation (c.shape kind).Doc}
    (h : transformBy registry kind tag diagnostics r name = .ok r') :
    r' = r ∨ ∃ transformer, registry.transformer kind name = .ok transformer ∧
      transformer.transform r diagnostics = .ok r' := by
  unfold transformBy at h
  split at h
  · cases h
  · split at h
    · cases hlookup : registry.transformer kind name with
      | error e =>
        rw [hlookup] at h
        cases h
      | ok transformer =>
        rw [hlookup] at h
        refine .inr ⟨transformer, rfl, ?_⟩
        change (transformer.transform r diagnostics).mapError EngineError.plugin = .ok r' at h
        cases htransform : transformer.transform r diagnostics with
        | error e =>
          rw [htransform] at h
          cases h
        | ok next =>
          rw [htransform] at h
          cases h
          rfl
    · cases h
      exact .inl rfl

theorem path_foldlM_transformBy {names : List String} (hkeep : KeepPaths registry kind names)
    {tag : Tag} {diagnostics : List (Diagnostic (c.shape kind).Payload)}
    {r r' : Representation (c.shape kind).Doc}
    (h : names.foldlM (transformBy registry kind tag diagnostics) r = .ok r') :
    r'.path = r.path := by
  induction names generalizing r with
  | nil =>
    cases h
    rfl
  | cons name rest ih =>
    rw [List.foldlM_cons] at h
    cases hfirst : transformBy registry kind tag diagnostics r name with
    | error e =>
      rw [hfirst] at h
      cases h
    | ok next =>
      rw [hfirst] at h
      rw [ih (fun other hother => hkeep other (List.mem_cons_of_mem _ hother)) h]
      rcases of_transformBy hfirst with rfl | ⟨transformer, hlookup, htransform⟩
      · rfl
      · exact hkeep name List.mem_cons_self transformer hlookup r diagnostics next htransform

/-- A pass ends at the path that it started with. -/
theorem path_final (hkeep : KeepPaths registry kind config.transformers)
    {first : Representation (c.shape kind).Doc} {pass : Pass (c.shape kind)}
    (h : treat registry config parser first = .ok pass) : pass.final.path = first.path := by
  obtain ⟨rules, fixer, -, -, hloop, hfinal⟩ := exists_of_treat h
  obtain ⟨content, hcontent⟩ := exists_withContent_loop config rules fixer first
  rw [path_foldlM_transformBy hkeep hfinal, hloop.fixed_eq, hcontent]
  rfl

/-! ## Saving -/

/-- If the first and the final content have one fingerprint, they have the same bytes. -/
def Pass.CollisionFree {s : Shape} (pass : Pass s) : Prop :=
  s.fingerprint pass.final.content = s.fingerprint pass.first.content →
    s.content pass.final.content = s.content pass.first.content

instance {s : Shape} (pass : Pass s) : Decidable pass.CollisionFree :=
  inferInstanceAs (Decidable (_ → _))

theorem Pass.CollisionFree.changed_iff {s : Shape} {pass : Pass s} (h : pass.CollisionFree) :
    pass.Changed ↔ s.content pass.final.content ≠ s.content pass.first.content := by
  refine not_congr ⟨h, fun heq => ?_⟩
  rw [Shape.fingerprint, heq, Shape.fingerprint]

/-- Saving a pass puts the final text in the place of the first one. -/
theorem save_located {s : Shape} {parser : Parser s} {ofText : String → s.Doc}
    {toText : s.Doc → String} (hbuilt : parser.BuiltIn ofText toText) {pass : Pass s}
    {files files' : FileTree} {place : Place} (hpath : pass.final.path = path)
    (hfile : files.Located path place (toText pass.first.content).toUTF8)
    (hfree : pass.CollisionFree) (hsave : pass.save parser files = .ok files') :
    files'.Located path place (toText pass.final.content).toUTF8 ∧
      ∀ other ≠ place, files'.node? other = files.node? other := by
  unfold Pass.save at hsave
  split at hsave
  · have hwrite : parser.write files pass.final =
        .ok (files.put place (.file (toText pass.final.content).toUTF8)) := by
      rw [hbuilt.write_eq, Parser.writeTextOf, FileTree.writeText, hpath, hfile.writeBytes_eq]
    rw [hwrite] at hsave
    cases hsave
    refine ⟨hfile.put _, fun other hother => ?_⟩
    rw [FileTree.node?_put files (FileTree.names_ne_nil_of_file hfile.node_eq), if_neg hother]
  · next hsame =>
    -- One fingerprint means the same bytes here, so the file holds the final text already.
    cases hsave
    rw [hfree.changed_iff, not_not, hbuilt.content_eq, hbuilt.content_eq] at hsame
    rw [hsame]
    exact ⟨hfile, fun _ _ => rfl⟩

/-! ## Runs with one parser -/

variable {entry : Entry c Parser} {session session' : Session} {outcome : FileOutcome}

/-- A run that succeeds with a built-in parser saves one pass, that of the text of the file. -/
theorem exists_pass_of_builtIn {ofText : String → (c.shape entry.kind).Doc}
    {toText : (c.shape entry.kind).Doc → String} (hbuilt : entry.plugin.BuiltIn ofText toText)
    (hentry : registry.parserEntry? name = some entry)
    (hdone : exec (fixFileWith registry config name path) session = (.ok outcome, session')) :
    ∃ source place pass, session.files.Located path place source.toUTF8 ∧
      treat registry config entry.plugin ⟨entry.plugin.tag, ofText source, path⟩ = .ok pass ∧
      pass.save entry.plugin session.files = .ok session'.files ∧
      outcome = Pass.record (start entry.plugin name path) pass := by
  obtain ⟨hreadOnly, -⟩ | ⟨-, representations, passes, hparsed, htreated, hsaved, rfl⟩ :=
    (runsTo_of_entry hentry hdone).of_ok
  · exact absurd hbuilt.canWrite hreadOnly
  · obtain ⟨source, hsource, rfl⟩ := hbuilt.parseFile_eq_ok hparsed
    obtain ⟨place, hfile⟩ := FileTree.exists_located hsource
    cases htreated with
    | cons htreat hrest =>
      cases hrest
      simp only [List.foldlM_cons, List.foldlM_nil, bind_pure] at hsaved
      exact ⟨source, place, _, hfile, htreat, hsaved, rfl⟩

/-- A pass of the text of a file that can be made and saved is what a run with a built-in parser
comes to. -/
theorem exists_exec_of_pass {ofText : String → (c.shape entry.kind).Doc}
    {toText : (c.shape entry.kind).Doc → String} (hbuilt : entry.plugin.BuiltIn ofText toText)
    (hentry : registry.parserEntry? name = some entry) {source : String} {place : Place}
    {pass : Pass (c.shape entry.kind)} {files : FileTree}
    (hfile : session.files.Located path place source.toUTF8)
    (htreat : treat registry config entry.plugin ⟨entry.plugin.tag, ofText source, path⟩ = .ok pass)
    (hsave : pass.save entry.plugin session.files = .ok files) :
    ∃ log, exec (fixFileWith registry config name path) session =
      (.ok (Pass.record (start entry.plugin name path) pass), ⟨files, log⟩) := by
  obtain ⟨rules, fixer, hrules, hfixer, -⟩ := exists_of_treat htreat
  have hread := hbuilt.parseFile_of_readText hfile.readText_eq
  obtain ⟨heq, hparser⟩ := fixFileWith_eq_fixAs hentry
  obtain ⟨log, hrun⟩ : ∃ log, exec (fixAs registry config entry.kind name path) session = _ :=
    fixAs_amountsTo hparser session
  obtain ⟨log', hpass⟩ := fixAll_cons_amountsTo hrules hfixer path
    ⟨entry.plugin.tag, ofText source, path⟩ [] (start entry.plugin name path)
    ⟨session.files, session.log ++ log⟩
  simp only [htreat, hsave] at hpass
  simp only [hrules, hread, hbuilt.canWrite, if_true, hfixer, exec_bind, hpass] at hrun
  rw [heq]
  exact ⟨_, hrun⟩

/-- A run that succeeds with a built-in parser leaves in the file the text of the final document, it
has written exactly if the bytes of the file are others than before, and it leaves all other files
alone. A parser that cannot write leaves all files alone and nothing is applied. -/
theorem fixFileWith_leaves_final_text (hentry : registry.parserEntry? name = some entry)
    (hdone : exec (fixFileWith registry config name path) session = (.ok outcome, session')) :
    (∀ ofText toText, entry.plugin.BuiltIn ofText toText →
      KeepPaths registry entry.kind config.transformers →
      ∃ source place pass, session.files.Located path place source.toUTF8 ∧
        treat registry config entry.plugin ⟨entry.plugin.tag, ofText source, path⟩ = .ok pass ∧
        (pass.CollisionFree →
          session'.files.Located path place (toText pass.final.content).toUTF8 ∧
          (outcome.written ↔
            session'.files.readBytes path ≠ session.files.readBytes path) ∧
          ∀ other ≠ place, session'.files.node? other = session.files.node? other)) ∧
    (¬ entry.plugin.canWrite →
      session'.files = session.files ∧ outcome.results = [] ∧ outcome.applied = 0) := by
  constructor
  · intro ofText toText hbuilt hkeep
    obtain ⟨source, place, pass, hfile, htreat, hsave, rfl⟩ :=
      exists_pass_of_builtIn hbuilt hentry hdone
    refine ⟨source, place, pass, hfile, htreat, fun hfree => ?_⟩
    obtain ⟨rules, fixer, -, -, hloop, -⟩ := exists_of_treat htreat
    have hfirst : toText pass.first.content = source := by
      rw [hloop.first_eq, hbuilt.toText_ofText]
    obtain ⟨hfinal, hothers⟩ := save_located hbuilt (path_final hkeep htreat)
      (by rwa [hfirst]) hfree hsave
    refine ⟨hfinal, ?_, hothers⟩
    rw [hfinal.readBytes_eq, hfile.readBytes_eq, Ne, Except.ok.injEq, ← hfirst,
      ← hbuilt.content_eq, ← hbuilt.content_eq, ← Ne, ← hfree.changed_iff]
    simp [Pass.record, start]
  · intro hreadOnly
    obtain ⟨-, hkept⟩ | ⟨hwrite, -⟩ := (runsTo_of_entry hentry hdone).of_ok
    · exact hkept
    · exact absurd hwrite hreadOnly

/-- Wants a text that starts with an `a` to start with an `A`. -/
def capital : Rule .text where
  name := "capital"
  description := "Texts start with a capital letter"
  tag := .text
  check context :=
    if context.content.toList.head? = some 'a' then
      [{ ruleId := "capital", message := "small letter", span := ⟨0, 1⟩,
         fix := some ⟨⟨0, 1⟩, "A", "capital"⟩ }]
    else []

/-- Adds a newline at the end. -/
def newline : Transformer .text where
  name := "newline"
  description := "Adds a newline"
  transform r _ := .ok (r.withContent (String.append r.content "\n"))

/-- With these the file `ab` becomes `Ab` in the loop, and gets a newline after it. A parser that
differs from the built-in one in that it cannot write leaves the file as it is. -/
theorem fixFileWith_leaves_final_text_capital :
    let writer : Entry .plain Parser := ⟨.text, .text, Parser.text⟩
    let viewer : Entry .plain Parser :=
      ⟨.text, .text, { Parser.text with name := "viewer", canWrite := false }⟩
    let registry : Registry .plain := { Registry.builtins.registry with
      parsers := [writer, viewer]
      rules := [⟨.text, .text, capital⟩]
      transformers := [⟨.text, .text, newline⟩] }
    let config : Config := { transformers := ["newline"] }
    let files := FileTree.empty.install ⟨"a.txt"⟩ (.file "ab".toUTF8)
    let run (name : String) := exec (fixFileWith registry config name ⟨"a.txt"⟩) ⟨files, []⟩
    (run "string").1 = .ok ⟨⟨"a.txt"⟩, "string", .text, [.converged 2], 1, true, []⟩ ∧
    (run "string").2.files.readBytes ⟨"a.txt"⟩ = .ok "Ab\n".toUTF8 ∧
    (run "viewer").1 =
      .ok ⟨⟨"a.txt"⟩, "viewer", .text, [], 0, false,
        [⟨"capital", "small letter", ⟨0, 1⟩, .error, none⟩]⟩ ∧
    (run "viewer").2.files = files := by
  intro writer viewer registry config files run
  have hfixed : (run "string").1 =
      .ok ⟨⟨"a.txt"⟩, "string", .text, [.converged 2], 1, true, []⟩ := by decide +kernel
  have hviewed : (run "viewer").1 = .ok ⟨⟨"a.txt"⟩, "viewer", .text, [], 0, false,
      [⟨"capital", "small letter", ⟨0, 1⟩, .error, none⟩]⟩ := by decide +kernel
  have hwriter : registry.parserEntry? "string" = some writer := rfl
  have hviewer : registry.parserEntry? "viewer" = some viewer := rfl
  have hkeep : KeepPaths registry writer.kind config.transformers := by
    intro name hname transformer htransformer r diagnostics r' hr
    obtain rfl := List.mem_singleton.1 hname
    obtain rfl : newline = transformer := Except.ok.inj htransformer
    obtain rfl := Except.ok.inj hr
    rfl
  have hpass : (treat registry config writer.plugin ⟨.text, "ab", ⟨"a.txt"⟩⟩).toOption.all
      fun pass => decide (pass.CollisionFree ∧ (id pass.final.content : String) = "Ab\n") := by
    decide +kernel
  obtain ⟨hwritten, -⟩ := fixFileWith_leaves_final_text hwriter (Prod.ext hfixed rfl)
  obtain ⟨-, hread⟩ := fixFileWith_leaves_final_text hviewer (Prod.ext hviewed rfl)
  obtain ⟨source, place, pass, hfile, htreat, hfinal⟩ := hwritten id id (.text _) hkeep
  obtain rfl : "ab" = source := String.toByteArray_inj.1 (Except.ok.inj hfile.readBytes_eq)
  obtain ⟨hfree, hcontent⟩ := of_decide_eq_true (of_check_treat hpass htreat)
  obtain ⟨hlocated, -, -⟩ := hfinal hfree
  have hbytes : (run "string").2.files.readBytes ⟨"a.txt"⟩ = .ok "Ab\n".toUTF8 :=
    hlocated.readBytes_eq.trans (congrArg (fun text : String => Except.ok text.toUTF8) hcontent)
  exact ⟨hfixed, hbytes, hviewed, (hread Bool.false_ne_true).1⟩

end FileRun

end Emend

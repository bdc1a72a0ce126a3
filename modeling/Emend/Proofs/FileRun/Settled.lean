import Emend.Proofs.FileRun.LastRound
import Emend.Proofs.FileRun.Rewriting

/-!
# Running again

A pass that has converged, with no transformer after it, ends with what its last round was shown.
Shown the same again, a pass converges with its first round, leaves the same findings and has
nothing to save (`treat_again`). The text parser reads back from a file exactly the text that was
written there, so that a second run goes through such a pass.
-/

namespace Emend

namespace FileRun

/-- The pass that changes nothing of what a pass ends with, and leaves the same. -/
def Pass.again {s : Shape} (pass : Pass s) : Pass s :=
  ⟨pass.final, pass.final, .converged 1, 0, pass.left, pass.final⟩

theorem Pass.save_again {s : Shape} (pass : Pass s) (parser : Parser s) (files : FileTree) :
    pass.again.save parser files = .ok files :=
  if_neg (not_not_intro rfl)

variable {c : Catalogue} {registry : Registry c} {config : Config}

section
variable {kind : Kind c.Custom} {parser : Parser (c.shape kind)}
  {first : Representation (c.shape kind).Doc} {pass : Pass (c.shape kind)}

/-- Without transformers a pass ends with what the loop leaves. -/
theorem final_eq_fixed (hplain : config.transformers = [])
    (h : treat registry config parser first = .ok pass) : pass.final = pass.fixed := by
  obtain ⟨rules, fixer, -, -, -, hfinal⟩ := exists_of_treat h
  rw [hplain] at hfinal
  exact (Except.ok.inj hfinal).symm

/-- A pass without transformers is only about the content of a representation. -/
theorem final_eq_withContent (hplain : config.transformers = [])
    (h : treat registry config parser first = .ok pass) :
    pass.final = first.withContent pass.final.content := by
  obtain ⟨rules, fixer, -, -, hloop, -⟩ := exists_of_treat h
  obtain ⟨content, hcontent⟩ := exists_withContent_loop config rules fixer first
  rw [final_eq_fixed hplain h, hloop.fixed_eq, hcontent]
  rfl

/-- The pass of what a converged pass ends with changes nothing and leaves the same. -/
theorem treat_again (hplain : config.transformers = [])
    (h : treat registry config parser first = .ok pass) (hends : pass.ending.isConverged) :
    treat registry config parser pass.final = .ok pass.again := by
  obtain ⟨rules, fixer, hrules, hfixer, hloop, -⟩ := exists_of_treat h
  obtain ⟨shown, hshown⟩ := exists_endsWith hloop
  have hsole := hshown.unchanged hends
  obtain ⟨hcontent, happlied⟩ := soleRound_of_unchanged hsole
  have hfinal : pass.final = shown := by
    rw [final_eq_fixed hplain h, hshown.fixed_eq, hcontent]
  have hagain := loop_of_unchanged hsole
  have hresult : (loop config rules fixer shown).result = .ok (.converged 1) := by rw [hagain]
  rw [Pass.again, hfinal, hshown.left_eq, treat_of_ok hrules hfixer hresult, hagain, hplain,
    happlied]
  rfl

end

/-! ## Two runs -/

variable {entry : Entry c Parser} {name : String} {path : Path} {session session' : Session}
  {outcome : FileOutcome}

/-- After a pass has converged and was saved as a text from which its document is read back, another
run over the file goes through the same again. -/
theorem exists_exec_again {ofText : String → (c.shape entry.kind).Doc}
    {toText : (c.shape entry.kind).Doc → String} (hbuilt : entry.plugin.BuiltIn ofText toText)
    (hentry : registry.parserEntry? name = some entry) (hplain : config.transformers = [])
    {source : String} {place : Place} {pass : Pass (c.shape entry.kind)} {files : FileTree}
    (hfile : files.Located path place source.toUTF8)
    (htreat : treat registry config entry.plugin ⟨entry.plugin.tag, ofText source, path⟩ = .ok pass)
    (hsave : pass.save entry.plugin files = .ok session.files) (hends : pass.ending.isConverged)
    (hfree : pass.CollisionFree)
    (hback : ofText (toText pass.final.content) = pass.final.content) :
    ∃ log, exec (fixFileWith registry config name path) session =
      (.ok { Pass.record (start entry.plugin name path) pass with
        results := [.converged 1], applied := 0, written := false }, ⟨session.files, log⟩) := by
  obtain ⟨rules, fixer, -, -, hloop, -⟩ := exists_of_treat htreat
  have hfinal := final_eq_withContent hplain htreat
  have hpath : pass.final.path = path := by
    rw [hfinal]
    rfl
  have hfirst : toText pass.first.content = source := by
    rw [hloop.first_eq, hbuilt.toText_ofText]
  obtain ⟨hlocated, -⟩ := save_located hbuilt hpath (by rwa [hfirst]) hfree hsave
  have hshown : (⟨entry.plugin.tag, ofText (toText pass.final.content), path⟩ :
      Representation (c.shape entry.kind).Doc) = pass.final := by
    rw [hback]
    exact hfinal.symm
  have hagain := treat_again hplain htreat hends
  obtain ⟨log, hexec⟩ := exists_exec_of_pass hbuilt hentry hlocated (by rw [hshown, hagain])
    (pass.save_again entry.plugin session.files)
  exact ⟨log, hexec.trans (by simp [Pass.record, Pass.Changed, Pass.again, start])⟩

/-- After a run over a text has converged, with no transformer configured, another run converges
with its first round. It applies nothing, writes nothing and finds the same. -/
theorem fixFileWith_again {parser : Parser (c.shape .text)} {extensions : List String} {n : Nat}
    (htext : parser = .text extensions)
    (hentry : registry.parserEntry? "string" = some ⟨.text, .text, parser⟩)
    (hplain : config.transformers = [])
    (hdone : exec (fixFileWith registry config "string" path) session = (.ok outcome, session'))
    (hconverged : outcome.results = [.converged n])
    (hfree : ∀ (source : String) (pass : Pass (c.shape .text)),
      session.files.readText path = .ok source →
      treat registry config parser ⟨parser.tag, source, path⟩ = .ok pass → pass.CollisionFree) :
    ∃ session'', exec (fixFileWith registry config "string" path) session' =
        (.ok { outcome with results := [.converged 1], applied := 0, written := false },
          session'') ∧
      session''.files = session'.files := by
  have hbuilt : parser.BuiltIn id id := by
    rw [htext]
    exact .text extensions
  obtain ⟨source, place, pass, hfile, htreat, hsave, rfl⟩ :=
    exists_pass_of_builtIn hbuilt hentry hdone
  have hends : pass.ending = .converged n := List.singleton_inj.1 hconverged
  have hsource : session.files.readText path = .ok source :=
    FileTree.readText_eq_ok_iff.2 hfile.readBytes_eq
  obtain ⟨log, hexec⟩ := exists_exec_again hbuilt hentry hplain hfile htreat hsave
    (by rw [hends]; rfl) (hfree source pass hsource htreat) rfl
  exact ⟨_, hexec, rfl⟩

/-- Wants something of its own in front of a text. -/
def claimFront (name : String) : Rule .text where
  name := name
  description := "Texts start with the name of the rule"
  tag := .text
  check _ :=
    [{ ruleId := name, message := "not in front", span := .empty 0,
       fix := some (.insert 0 name name) }]

/-- Two such rules are at odds with each other in every round. The one fix of a third rule is
applied by the first run, and the second run rejects the same as the last round of the first. -/
theorem fixFileWith_again_rivals :
    let registry : Registry .plain := { Registry.builtins.registry with
      rules := [⟨.text, .text, claimFront "x"⟩, ⟨.text, .text, capital⟩,
        ⟨.text, .text, claimFront "y"⟩] }
    let config : Config := { policy := .rejectAll }
    let run := exec (fixFileWith registry config "string" ⟨"a.txt"⟩)
    let first := run ⟨FileTree.empty.install ⟨"a.txt"⟩ (.file "ab".toUTF8), []⟩
    let second := run first.2
    let findings : List Finding :=
      [⟨"x", "not in front", ⟨0, 0⟩, .error, some (.conflict ⟨0, 0⟩ "y" ⟨0, 0⟩)⟩,
        ⟨"y", "not in front", ⟨0, 0⟩, .error, some (.conflict ⟨0, 0⟩ "x" ⟨0, 0⟩)⟩]
    first.1 = .ok ⟨⟨"a.txt"⟩, "string", .text, [.converged 2], 1, true, findings⟩ ∧
    second.1 = .ok ⟨⟨"a.txt"⟩, "string", .text, [.converged 1], 0, false, findings⟩ ∧
    second.2.files = first.2.files := by
  intro registry config run first second findings
  let parser : Parser (Catalogue.plain.shape .text) := Parser.text
  have hfirst : first.1 = .ok ⟨⟨"a.txt"⟩, "string", .text, [.converged 2], 1, true, findings⟩ := by
    decide +kernel
  have hread : (FileTree.empty.install ⟨"a.txt"⟩ (.file "ab".toUTF8)).readText ⟨"a.txt"⟩ =
      .ok "ab" := by decide +kernel
  have hcheck : (treat registry config parser ⟨parser.tag, "ab", ⟨"a.txt"⟩⟩).toOption.all
      fun pass => pass.CollisionFree := by decide +kernel
  have hfree : ∀ (source : String) (pass : Pass (Catalogue.plain.shape .text)),
      (FileTree.empty.install ⟨"a.txt"⟩ (.file "ab".toUTF8)).readText ⟨"a.txt"⟩ = .ok source →
      treat registry config parser ⟨parser.tag, source, ⟨"a.txt"⟩⟩ = .ok pass →
        pass.CollisionFree := by
    intro source pass hsource htreat
    obtain rfl := Except.ok.inj (hread.symm.trans hsource)
    exact of_decide_eq_true (of_check_treat hcheck htreat)
  have htext : parser = .text := rfl
  obtain ⟨session, hsecond, hfiles⟩ :=
    fixFileWith_again htext rfl rfl (Prod.ext hfirst rfl) rfl hfree
  refine ⟨hfirst, congrArg Prod.fst hsecond, ?_⟩
  rw [← hfiles]
  exact congrArg (fun done => done.2.files) hsecond

end FileRun

end Emend

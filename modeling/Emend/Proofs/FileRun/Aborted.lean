import Emend.Proofs.FileRun.Passes

/-!
# What a run that fails has done

A run saves the pass of a representation before it goes on to the next. If it fails on one, it has
already saved those before it (`AbortedAfter`), and this is all that it has done to the files
(`exists_abortedAfter`). A run over a file that makes one representation at most therefore leaves
the files as they were if it fails, and a run over one that makes several may not.
-/

namespace Emend

namespace FileRun

variable {c : Catalogue} {registry : Registry c} {config : Config} {name : String} {path : Path}
  {session session' : Session} {e : EngineError}

/-- Passes that end with the content that they started with leave the files as they are. -/
theorem foldlM_save_of_unchanged {s : Shape} {parser : Parser s} {passes : List (Pass s)}
    (h : ∀ pass ∈ passes, ¬ pass.Changed) (files : FileTree) :
    passes.foldlM (Pass.save parser) files = .ok files := by
  induction passes with
  | nil => rfl
  | cons pass rest ih =>
    obtain ⟨hpass, hrest⟩ := List.forall_mem_cons.1 h
    rw [List.foldlM_cons, Pass.save, if_neg hpass]
    exact ih hrest

/-- The passes of some representations were saved, one of them with another content, when the next
representation failed. -/
def AbortedAfter (registry : Registry c) (config : Config) {kind : Kind c.Custom}
    (parser : Parser (c.shape kind)) (path : Path) (files files' : FileTree) (e : EngineError) :
    Prop :=
  ∃ done r rest passes, (parser.parseFile files path).1 = .ok (done ++ r :: rest) ∧
    Treated registry config parser done passes ∧ (∃ pass ∈ passes, pass.Changed) ∧
    passes.foldlM (Pass.save parser) files = .ok files' ∧
    FailsOn registry config parser files' r e

/-- Such a run is over a file of several representations. -/
theorem AbortedAfter.exists_representations {kind : Kind c.Custom}
    {parser : Parser (c.shape kind)} {files files' : FileTree}
    (h : AbortedAfter registry config parser path files files' e) :
    ∃ representations, (parser.parseFile files path).1 = .ok representations ∧
      1 < representations.length := by
  obtain ⟨done, r, rest, passes, hparsed, htreated, ⟨pass, hpass, -⟩, -⟩ := h
  refine ⟨_, hparsed, ?_⟩
  have hpos := List.length_pos_of_mem hpass
  rw [← htreated.length_eq] at hpos
  rw [List.length_append, List.length_cons]
  omega

/-- If a run fails and the files are no longer the same, it was aborted after it had saved some
passes. -/
theorem exists_abortedAfter
    (hfails : exec (fixFileWith registry config name path) session = (.error e, session'))
    (hne : session'.files ≠ session.files) :
    ∃ entry, registry.parserEntry? name = some entry ∧
      AbortedAfter registry config entry.plugin path session.files session'.files e := by
  cases hentry : registry.parserEntry? name with
  | none =>
    rw [fixFileWith, hentry] at hfails
    cases hfails
    exact absurd rfl hne
  | some entry =>
    obtain hsame | ⟨done, r, rest, passes, hparsed, htreated, hsaved, hfailsOn⟩ :=
      (runsTo_of_entry hentry hfails).of_error
    · exact absurd hsame hne
    · refine ⟨entry, rfl, done, r, rest, passes, hparsed, htreated, ?_, hsaved, hfailsOn⟩
      -- Had no pass a new content, saving them would have left the files as they were.
      by_contra hsame
      push Not at hsame
      rw [foldlM_save_of_unchanged hsame] at hsaved
      exact hne (Except.ok.inj hsaved).symm

/-- A run that fails leaves all files as they were, if the parser makes one representation of the
file at most. Else they are what it has saved before it was aborted. -/
theorem fixFileWith_error_files
    (hfails : exec (fixFileWith registry config name path) session = (.error e, session')) :
    ((∀ entry representations, registry.parserEntry? name = some entry →
        (entry.plugin.parseFile session.files path).1 = .ok representations →
          representations.length ≤ 1) → session'.files = session.files) ∧
    (session'.files = session.files ∨ ∃ entry, registry.parserEntry? name = some entry ∧
      AbortedAfter registry config entry.plugin path session.files session'.files e) := by
  constructor
  · intro hsingle
    by_contra hne
    obtain ⟨entry, hentry, haborted⟩ := exists_abortedAfter hfails hne
    obtain ⟨representations, hparsed, hseveral⟩ := haborted.exists_representations
    exact absurd (hsingle entry representations hentry hparsed) (Nat.not_le_of_lt hseveral)
  · exact or_iff_not_imp_left.2 (exists_abortedAfter hfails)

/-- Lines that pass for one more than they are. -/
def overlong : Shape :=
  { Shape.lines with
    size := fun lines : Lines => lines.size + 1
    isBoundary := fun (lines : Lines) offset => offset ≤ lines.size + 1 }

/-- The parts of a text between bars, each to be written to a file of its own. -/
def parts : Parser overlong where
  name := "parts"
  description := "Splits the file at bars"
  extensions := ["txt"]
  tag := ⟨"part"⟩
  parse source path := .ok <| (Text.pieces '|' source.toList).zipIdx.map fun (part, i) =>
    ⟨⟨"part"⟩, Lines.ofText (.ofList part), ⟨path.text ++ "." ++ toString i⟩⟩
  canWrite := true
  write := Parser.writeTextOf (s := overlong) Lines.toText

/-- Replaces an `a` by an `A`, and the line after a `b`, which is not there. -/
def misplaced : Rule overlong where
  name := "misplaced"
  description := "Parts are capital letters"
  tag := ⟨"part"⟩
  check context :=
    let report (span : Span) (line : String) : Diagnostic (List String) :=
      { ruleId := "misplaced", message := "small letter", span,
        fix := some ⟨span, [line], "misplaced"⟩ }
    if Lines.toText context.content = "a" then [report ⟨0, 1⟩ "A"]
    else if Lines.toText context.content = "b" then [report ⟨1, 2⟩ "B"]
    else []

/-- The registry of these plugins. -/
def partRegistry : Registry ⟨Unit, inferInstance, fun _ => overlong, fun _ => "part"⟩ where
  kinds := [(⟨"part"⟩, .custom ())]
  parsers := [⟨⟨"part"⟩, .custom (), parts⟩]
  rules := [⟨⟨"part"⟩, .custom (), misplaced⟩]
  fixers := [⟨⟨"part"⟩, .custom (), ⟨⟨"part"⟩, .firstSubmitted⟩⟩]
  transformers := []

/-- A file of two parts, the file of the first, and one of which the only part fails. -/
def partFiles : FileTree :=
  ((FileTree.empty.install ⟨"x.txt"⟩ (.file "a|b".toUTF8)).install
    ⟨"x.txt.0"⟩ (.file "a".toUTF8)).install ⟨"y.txt"⟩ (.file "b".toUTF8)

/-- The run over one part leaves the files alone. The one over two is aborted on the second. -/
theorem fixFileWith_error_files_parts :
    let run (path : Path) := exec (fixFileWith partRegistry .default "parts" path) ⟨partFiles, []⟩
    let e : EngineError := .fixer (.spliceFailure (.outOfBounds 1 2 1))
    (run ⟨"y.txt"⟩).1 = .error e ∧ (run ⟨"y.txt"⟩).2.files = partFiles ∧
    (run ⟨"x.txt"⟩).1 = .error e ∧ ∃ entry, partRegistry.parserEntry? "parts" = some entry ∧
      AbortedAfter partRegistry .default entry.plugin ⟨"x.txt"⟩ partFiles
        (run ⟨"x.txt"⟩).2.files e := by
  intro run e
  have hone : (run ⟨"y.txt"⟩).1 = .error e := by decide +kernel
  have htwo : (run ⟨"x.txt"⟩).1 = .error e := by decide +kernel
  have hsingle : (parts.parseFile partFiles ⟨"y.txt"⟩).1.toOption.all
      fun representations => representations.length ≤ 1 := by decide +kernel
  have hchanged : (run ⟨"x.txt"⟩).2.files.readText ⟨"x.txt.0"⟩ ≠
      partFiles.readText ⟨"x.txt.0"⟩ := by decide +kernel
  obtain ⟨hkept, -⟩ := fixFileWith_error_files (Prod.ext hone rfl)
  obtain ⟨-, haborted⟩ := fixFileWith_error_files (Prod.ext htwo rfl)
  refine ⟨hone, hkept fun entry representations hentry hparsed => ?_, htwo,
    haborted.resolve_left fun hsame => ?_⟩
  · obtain rfl : ⟨⟨"part"⟩, .custom (), parts⟩ = entry := Option.some.inj hentry
    have hpart : (parts.parseFile partFiles ⟨"y.txt"⟩).1 = .ok representations := hparsed
    rw [hpart] at hsingle
    exact of_decide_eq_true hsingle
  · exact hchanged (congrArg (fun files => files.readText ⟨"x.txt.0"⟩) hsame)

/-- The second part fails and no write does, yet the file of the first part has changed. -/
theorem error_after_saving :
    let done := exec (fixFileWith partRegistry .default "parts" ⟨"x.txt"⟩) ⟨partFiles, []⟩
    done.1 = .error (.fixer (.spliceFailure (.outOfBounds 1 2 1))) ∧
    partFiles.readText ⟨"x.txt.0"⟩ = .ok "a" ∧
    done.2.files.readText ⟨"x.txt.0"⟩ = .ok "A" := by
  decide +kernel

end FileRun

end Emend

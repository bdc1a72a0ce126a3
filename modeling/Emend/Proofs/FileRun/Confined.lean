import Emend.Proofs.FileRun.Rewriting
import Emend.Proofs.FileTree.Layout

/-!
# A run and its file

A run with a built-in parser depends on the files only by the text of its own file, and changes no
other one (`Confined`): what it returns and whether it writes, and which text, is a function of
that text, or of the reason why there is none (`conduct`). Runs that fail half-way are no exception.

In trees with one layout that hold the same file at its path such a run comes to the same
(`Confined.exec_eq`), and it leaves the layout as it is.
-/

namespace Emend

namespace FileRun

/-! ## Confined parts -/

section
variable {α : Type} {part : Run α} {path : Path}

/-- What the part returns and what it writes to the file at `path` is a function of the text of that
file, which it writes to only if it could read it. It changes no other file. -/
def Confined (part : Run α) (path : Path) : Prop :=
  ∃ conduct : Except IoError String → Except EngineError α × Option ByteArray,
    (∀ e, (conduct (.error e)).2 = none) ∧
    ∀ session, ∃ log, exec part session = ((conduct (session.files.readText path)).1,
      ⟨session.files.overwrite path (conduct (session.files.readText path)).2, log⟩)

theorem confined_throw (e : EngineError) : Confined (throw e : Run α) path :=
  ⟨fun _ => (.error e, none), fun _ => rfl, fun session => ⟨session.log, rfl⟩⟩

/-- Whoever can read a file has its path lead to it. -/
theorem exists_names_of_isSome
    {conduct : Except IoError String → Except EngineError α × Option ByteArray}
    (hunread : ∀ e, (conduct (.error e)).2 = none) {files : FileTree}
    (h : (conduct (files.readText path)).2.isSome) : ∃ place, files.Names path place := by
  cases hread : files.readText path with
  | error e =>
    rw [hread, hunread] at h
    cases h
  | ok source =>
    obtain ⟨place, hfile⟩ := FileTree.exists_located hread
    exact ⟨place, _, hfile⟩

namespace Confined

variable (h : Confined part path)
include h

theorem sameLayout (session : Session) :
    FileTree.SameLayout session.files (exec part session).2.files := by
  obtain ⟨conduct, hunread, hexec⟩ := h
  obtain ⟨log, hsession⟩ := hexec session
  rw [hsession]
  exact FileTree.sameLayout_overwrite (exists_names_of_isSome hunread)

/-- Where the path does not lead, nothing is changed. -/
theorem node?_eq {session : Session} {place : Place} (hplace : ¬ session.files.Names path place) :
    (exec part session).2.files.node? place = session.files.node? place := by
  obtain ⟨conduct, hunread, hexec⟩ := h
  obtain ⟨log, hsession⟩ := hexec session
  rw [hsession]
  exact FileTree.node?_overwrite (exists_names_of_isSome hunread) hplace

/-- Where the layout and the file at the path are the same, so are the result and the file that is
left. -/
theorem exec_eq {session session' : Session}
    (hlayout : FileTree.SameLayout session.files session'.files)
    (hsame : ∀ place, session.files.Names path place →
      session'.files.node? place = session.files.node? place) :
    (exec part session').1 = (exec part session).1 ∧
      ∀ place, session.files.Names path place →
        (exec part session').2.files.node? place = (exec part session).2.files.node? place := by
  obtain ⟨conduct, hunread, hexec⟩ := h
  obtain ⟨log, hsession⟩ := hexec session
  obtain ⟨log', hsession'⟩ := hexec session'
  rw [hsession, hsession', hlayout.readText_eq hsame]
  exact ⟨rfl, fun place hplace =>
    FileTree.node?_overwrite_congr hlayout hplace (hsame place hplace) _⟩

end Confined

end

/-! ## Runs with a built-in parser -/

section
variable {c : Catalogue} {registry : Registry c} {config : Config} {name : String} {path : Path}

section
variable {kind : Kind c.Custom}

/-- What a run with a built-in parser makes of the text of its file, or of the error of reading it.
The documents of the texts are those of `ofText`, and their texts those of `toText`. -/
def conduct (registry : Registry c) (config : Config) (parser : Parser (c.shape kind))
    (ofText : String → (c.shape kind).Doc) (toText : (c.shape kind).Doc → String) (name : String)
    (path : Path) : Except IoError String → Except EngineError FileOutcome × Option ByteArray
  | .error e => ((enabledRules registry config kind parser.tag).bind fun _ =>
      .error (.parse (.io e)), none)
  | .ok source =>
    match treat registry config parser ⟨parser.tag, ofText source, path⟩ with
    | .error e => (.error e, none)
    | .ok pass => (.ok (Pass.record (start parser name path) pass),
        if pass.Changed then some (toText pass.final.content).toUTF8 else none)

variable {parser : Parser (c.shape kind)} {ofText : String → (c.shape kind).Doc}
  {toText : (c.shape kind).Doc → String}

/-- A pass that stays at the path of a file is saved to that file. -/
theorem save_eq (hbuilt : parser.BuiltIn ofText toText) {pass : Pass (c.shape kind)}
    {files : FileTree} {place : Place} {bytes : ByteArray} (hpath : pass.final.path = path)
    (hfile : files.Located path place bytes) : pass.save parser files =
      .ok (files.overwrite path
        (if pass.Changed then some (toText pass.final.content).toUTF8 else none)) := by
  unfold Pass.save
  split
  · rw [hbuilt.write_eq, Parser.writeTextOf, FileTree.writeText, hpath, hfile.writeBytes_eq,
      FileTree.overwrite_of_located hfile]
  · rfl

end

section
variable {entry : Entry c Parser} {ofText : String → (c.shape entry.kind).Doc}
  {toText : (c.shape entry.kind).Doc → String}
  (hentry : registry.parserEntry? name = some entry)
  (hbuilt : entry.plugin.BuiltIn ofText toText)
include hentry hbuilt

theorem exists_exec_of_unread {session : Session} {cause : IoError}
    (hread : session.files.readText path = .error cause) :
    ∃ log, exec (fixFileWith registry config name path) session =
      ((conduct registry config entry.plugin ofText toText name path (.error cause)).1,
        ⟨session.files, log⟩) := by
  obtain ⟨heq, hparser⟩ := fixFileWith_eq_fixAs hentry
  obtain ⟨log, hrun⟩ : ∃ log, exec (fixAs registry config entry.kind name path) session = _ :=
    fixAs_amountsTo hparser session
  have hparsed : (entry.plugin.parseFile session.files path).1 = .error (.io cause) := by
    rw [hbuilt.parseFile_eq, hread]
  rw [heq, hrun, conduct]
  cases hrules : enabledRules registry config entry.kind entry.plugin.tag with
  | error e => exact ⟨_, rfl⟩
  | ok rules =>
    simp only [hparsed]
    exact ⟨_, rfl⟩

theorem exists_exec_of_treat_error {session : Session} {source : String} {e : EngineError}
    (hread : session.files.readText path = .ok source)
    (htreat : treat registry config entry.plugin ⟨entry.plugin.tag, ofText source, path⟩ =
      .error e) :
    ∃ log, exec (fixFileWith registry config name path) session =
      (.error e, ⟨session.files, log⟩) := by
  obtain ⟨heq, hparser⟩ := fixFileWith_eq_fixAs hentry
  obtain ⟨log, hrun⟩ : ∃ log, exec (fixAs registry config entry.kind name path) session = _ :=
    fixAs_amountsTo hparser session
  rw [heq, hrun]
  cases hrules : enabledRules registry config entry.kind entry.plugin.tag with
  | error e' =>
    rw [treat, hrules] at htreat
    cases htreat
    exact ⟨_, rfl⟩
  | ok rules =>
    simp only [hbuilt.parseFile_of_readText hread, hbuilt.canWrite, if_true]
    cases hfixer : registry.fixerFor entry.kind entry.plugin.tag with
    | error e' =>
      rw [treat, hrules, hfixer] at htreat
      cases htreat
      exact ⟨_, rfl⟩
    | ok fixer =>
      obtain ⟨log', hpass⟩ := fixAll_cons_amountsTo hrules hfixer path
        ⟨entry.plugin.tag, ofText source, path⟩ [] (start entry.plugin name path)
        ⟨session.files, session.log ++ log⟩
      simp only [htreat] at hpass
      simp only [exec_bind, hpass]
      exact ⟨_, rfl⟩

/-- A run with a built-in parser is confined to its file, if the transformers keep the path. -/
theorem confined_fixFileWith (hkeep : KeepPaths registry entry.kind config.transformers) :
    Confined (fixFileWith registry config name path) path := by
  refine ⟨conduct registry config entry.plugin ofText toText name path, fun _ => rfl,
    fun session => ?_⟩
  cases hread : session.files.readText path with
  | error cause => exact exists_exec_of_unread hentry hbuilt hread
  | ok source =>
    cases htreat : treat registry config entry.plugin
        ⟨entry.plugin.tag, ofText source, path⟩ with
    | error e =>
      simp only [conduct, htreat]
      exact exists_exec_of_treat_error hentry hbuilt hread htreat
    | ok pass =>
      obtain ⟨place, hfile⟩ := FileTree.exists_located hread
      simp only [conduct, htreat]
      exact exists_exec_of_pass hbuilt hentry hfile htreat
        (save_eq hbuilt (path_final hkeep htreat) hfile)

end

/-- With built-in parsers only, and transformers that keep paths, all runs are confined to their
files. -/
theorem confined_fixFile
    (hbuilt : ∀ entry ∈ registry.parsers, ∃ ofText toText, entry.plugin.BuiltIn ofText toText)
    (hkeep : ∀ kind, KeepPaths registry kind config.transformers) (path : Path) :
    Confined (fixFile registry config path) path := by
  unfold fixFile
  cases path.extension?.bind registry.parserForExtension? with
  | none => exact confined_throw _
  | some name =>
    cases hentry : registry.parserEntry? name with
    | none =>
      dsimp only
      rw [fixFileWith, hentry]
      exact confined_throw _
    | some entry =>
      obtain ⟨ofText, toText, hplugin⟩ := hbuilt entry (List.mem_of_find?_eq_some hentry)
      exact confined_fixFileWith hentry hplugin (hkeep entry.kind)

end

end FileRun

end Emend

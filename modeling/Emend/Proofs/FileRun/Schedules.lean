import Emend.Proofs.FileRun.Confined

/-!
# Fixing files in any order

Files that are fixed at once are worked off in whatever order they get their turn, and their results
are put back into the order of the paths (`fixScheduled`). If the runs are confined to their files,
and no two of the paths lead to one file, each run finds its own file as it was at first: the ones
before it have left the layout and all other files as they were (`fixJobs_alone`). So it comes to
what it comes to alone, in any order (`fixScheduled_alone`).
-/

namespace Emend

namespace FileRun

variable {c : Catalogue}

/-- Fixes the files of the jobs one after the other. The number of a job is that of its result. -/
def fixJobs (registry : Registry c) (config : Config) : List (Path × Nat) →
    StateM Session (List (Except EngineError FileOutcome × Nat))
  | [] => pure []
  | (path, number) :: rest => do
    let result ← (fixFile registry config path).run
    return (result, number) :: (← fixJobs registry config rest)

/-- Fixes the files of the jobs in the order of the schedule. The results are in the order of the
numbers. -/
def fixScheduled (registry : Registry c) (config : Config) (schedule : List (Path × Nat)) :
    StateM Session (List (Except EngineError FileOutcome)) := do
  return (stableSort (fun a b => a.2 ≤ b.2) (← fixJobs registry config schedule)).map Prod.fst

/-- No two of the paths lead to one file. -/
def Apart (files : FileTree) (paths : List Path) : Prop :=
  paths.Pairwise fun p q => ∀ place, files.Names p place → ¬ files.Names q place

/-- What the files are after runs that each came to what they come to alone: the file that a path
leads to is what the run over it alone leaves, and all else is as it was. -/
structure FixedAlone (registry : Registry c) (config : Config) (session : Session)
    (paths : List Path) (files : FileTree) : Prop where
  layout : FileTree.SameLayout session.files files
  named : ∀ path ∈ paths, ∀ place, session.files.Names path place → files.node? place =
    (exec (fixFile registry config path) session).2.files.node? place
  other : ∀ place, (∀ path ∈ paths, ¬ session.files.Names path place) →
    files.node? place = session.files.node? place

variable {registry : Registry c} {config : Config}

/-! ## Jobs -/

section
variable {path q : Path} {session : Session} {place : Place}
  (hconfined : ∀ path, Confined (fixFile registry config path) path)
include hconfined

/-- A run comes after one over another file to what it comes to before. -/
theorem exec_after
    (hapart : ∀ place, session.files.Names path place → ¬ session.files.Names q place) :
    let first := exec (fixFile registry config path) session
    (exec (fixFile registry config q) first.2).1 = (exec (fixFile registry config q) session).1 ∧
      ∀ place, session.files.Names q place →
        (exec (fixFile registry config q) first.2).2.files.node? place =
          (exec (fixFile registry config q) session).2.files.node? place :=
  (hconfined q).exec_eq ((hconfined path).sameLayout session) fun place hq =>
    (hconfined path).node?_eq fun hpath => hapart place hpath hq

/-- If runs after the one over `path` come to what they come to alone, so do all of them. -/
theorem FixedAlone.cons {paths : List Path} {files : FileTree}
    (hapart : Apart session.files (path :: paths))
    (h : FixedAlone registry config (exec (fixFile registry config path) session).2 paths files) :
    FixedAlone registry config session (path :: paths) files := by
  have hlayout := (hconfined path).sameLayout session
  obtain ⟨hpath, -⟩ := List.pairwise_cons.1 hapart
  refine ⟨hlayout.trans h.layout, fun q hq place hplace => ?_, fun place hplace => ?_⟩
  · rcases List.mem_cons.1 hq with rfl | hq
    · refine h.other place fun q hq hnames => ?_
      exact hpath q hq place hplace (hlayout.names_iff.1 hnames)
    · rw [h.named q hq place (hlayout.names hplace)]
      exact (exec_after hconfined (hpath q hq)).2 place hplace
  · obtain ⟨hfirst, hrest⟩ := List.forall_mem_cons.1 hplace
    rw [h.other place fun q hq hnames => hrest q hq (hlayout.names_iff.1 hnames)]
    exact (hconfined path).node?_eq hfirst

/-- If the runs are confined to their files, and these are different ones, then each run comes to
what it comes to alone. -/
theorem fixJobs_alone (jobs : List (Path × Nat)) (session : Session)
    (hapart : Apart session.files (jobs.map Prod.fst)) :
    let done := (fixJobs registry config jobs).run session
    done.1 = jobs.map (fun job => ((exec (fixFile registry config job.1) session).1, job.2)) ∧
      FixedAlone registry config session (jobs.map Prod.fst) done.2.files := by
  induction jobs generalizing session with
  | nil => exact ⟨rfl, .refl _, nofun, fun _ _ => rfl⟩
  | cons job rest ih =>
    obtain ⟨path, number⟩ := job
    obtain ⟨hpath, hrest⟩ := List.pairwise_cons.1 hapart
    have hlayout := (hconfined path).sameLayout session
    let first := exec (fixFile registry config path) session
    have hapart' : Apart first.2.files (rest.map Prod.fst) := by
      refine hrest.imp fun hpq place hp hq => ?_
      exact hpq place (hlayout.names_iff.1 hp) (hlayout.names_iff.1 hq)
    obtain ⟨hresults, hfiles⟩ := ih first.2 hapart'
    refine ⟨?_, hfiles.cons hconfined hapart⟩
    show (first.1, number) :: ((fixJobs registry config rest).run first.2).1 = _
    rw [hresults, List.map_cons]
    refine congrArg _ (List.map_congr_left fun job hjob => ?_)
    rw [(exec_after hconfined (hpath job.1 (List.mem_map_of_mem hjob))).1]

end

/-! ## Schedules -/

/-- Files that are fixed in the order of the paths. -/
theorem fixJobs_zipIdx (paths : List Path) (n : Nat) :
    fixJobs registry config (paths.zipIdx n) =
      (fun results => results.zipIdx n) <$> fixFiles registry config paths := by
  induction paths generalizing n with
  | nil => rfl
  | cons path rest ih =>
    rw [List.zipIdx_cons, fixJobs, fixFiles, ih]
    simp only [map_bind, bind_map_left, map_pure, List.zipIdx_cons]

theorem fixScheduled_zipIdx (paths : List Path) :
    fixScheduled registry config paths.zipIdx = fixFiles registry config paths := by
  have hsort : ∀ results : List (Except EngineError FileOutcome),
      (stableSort (fun a b => a.2 ≤ b.2) results.zipIdx).map Prod.fst = results := by
    intro results
    rw [stableSort_eq_of_ascending Prod.snd (.refl _) (pairwise_zipIdx results 0),
      List.zipIdx_map_fst]
  rw [fixScheduled, fixJobs_zipIdx]
  simp only [bind_map_left, hsort, bind_pure]

theorem Apart.perm {files : FileTree} {paths paths' : List Path} (h : Apart files paths)
    (hperm : paths.Perm paths') : Apart files paths' :=
  (hperm.pairwise_iff fun hpq place hq hp => hpq place hp hq).1 h

/-- The file at each of the paths is what it is after the run over it alone. -/
theorem FixedAlone.readBytes_eq {session : Session} {paths : List Path} {files : FileTree}
    (h : FixedAlone registry config session paths files)
    (hconfined : ∀ path, Confined (fixFile registry config path) path) {path : Path}
    (hpath : path ∈ paths) :
    files.readBytes path =
      (exec (fixFile registry config path) session).2.files.readBytes path := by
  have hlayout := (hconfined path).sameLayout session
  refine (hlayout.symm.trans h.layout).readBytes_eq fun place hplace => ?_
  exact h.named path hpath place (hlayout.names_iff.1 hplace)

/-- Paths that are looked up in different places are apart. -/
theorem apart_of_walk_ne {files : FileTree} {paths : List Path}
    (h : paths.Pairwise fun p q =>
      files.walk (.start p) p.parts ≠ files.walk (.start q) q.parts) : Apart files paths := by
  refine h.imp fun hne place hp hq => ?_
  obtain ⟨_, hp⟩ := hp
  obtain ⟨_, hq⟩ := hq
  exact hne (hp.walk_eq.trans hq.walk_eq.symm)

section
variable {paths : List Path} {schedule : List (Path × Nat)}
  (hschedule : schedule.Perm paths.zipIdx)
include hschedule

theorem perm_map_fst : (schedule.map Prod.fst).Perm paths := by
  have hperm := hschedule.map Prod.fst
  rwa [List.zipIdx_map_fst] at hperm

/-- However the paths are scheduled, the results are in their order. -/
theorem fixScheduled_results {session : Session}
    (hconfined : ∀ path, Confined (fixFile registry config path) path)
    (hapart : Apart session.files paths) :
    ((fixScheduled registry config schedule).run session).1 =
      paths.map fun path => (exec (fixFile registry config path) session).1 := by
  let alone (path : Path) := (exec (fixFile registry config path) session).1
  let finish (job : Path × Nat) := (alone job.1, job.2)
  obtain ⟨hjobs, -⟩ := fixJobs_alone hconfined schedule session
    (hapart.perm (perm_map_fst hschedule).symm)
  have hascends : (paths.zipIdx.map finish).Pairwise fun a b => a.2 < b.2 :=
    List.pairwise_map.2 (pairwise_zipIdx paths 0)
  calc ((fixScheduled registry config schedule).run session).1
    _ = (stableSort (fun a b => a.2 ≤ b.2)
          ((fixJobs registry config schedule).run session).1).map Prod.fst := rfl
    _ = (paths.zipIdx.map finish).map Prod.fst := by
      rw [hjobs, stableSort_eq_of_ascending Prod.snd (hschedule.map finish) hascends]
    _ = (paths.zipIdx.map Prod.fst).map alone := by
      rw [List.map_map, List.map_map]
      rfl
    _ = paths.map alone := by rw [List.zipIdx_map_fst]

end

/-- With built-in parsers and transformers that keep paths, paths to different files can be worked
off in any order. The results are those of the runs over each of them alone, in the order of the
paths, the files read as they do after these, and all other files are as they were. -/
theorem fixScheduled_alone
    (hbuilt : ∀ entry ∈ registry.parsers, ∃ ofText toText, entry.plugin.BuiltIn ofText toText)
    (hkeep : ∀ kind, KeepPaths registry kind config.transformers) {paths : List Path}
    {session : Session} (hapart : Apart session.files paths) {schedule : List (Path × Nat)}
    (hschedule : schedule.Perm paths.zipIdx) :
    let alone (path : Path) := exec (fixFile registry config path) session
    let done := (fixScheduled registry config schedule).run session
    done.1 = paths.map (fun path => (alone path).1) ∧
    ((fixFiles registry config paths).run session).1 = done.1 ∧
    (∀ path ∈ paths, done.2.files.readBytes path = (alone path).2.files.readBytes path) ∧
    ∀ place, (∀ path ∈ paths, ¬ session.files.Names path place) →
      done.2.files.node? place = session.files.node? place := by
  intro alone done
  have hconfined := confined_fixFile hbuilt hkeep
  have hpaths := perm_map_fst hschedule
  have hresults : done.1 = paths.map fun path => (alone path).1 :=
    fixScheduled_results hschedule hconfined hapart
  obtain ⟨-, hfiles⟩ := fixJobs_alone hconfined schedule session (hapart.perm hpaths.symm)
  refine ⟨hresults, ?_, fun path hpath => ?_, fun place hplace => ?_⟩
  · rw [← fixScheduled_zipIdx, hresults]
    exact fixScheduled_results (.refl _) hconfined hapart
  · exact hfiles.readBytes_eq hconfined (hpaths.symm.subset hpath)
  · exact hfiles.other place fun path hpath => hplace path (hpaths.subset hpath)

/-- The last of three files comes first. The one in the middle is not text, so that its run fails
and leaves it as it is. -/
theorem fixScheduled_alone_reversed :
    let registry : Registry .plain := { Registry.builtins.registry with
      parsers := [⟨.text, .text, Parser.text⟩, ⟨.line, .lines, Parser.lines⟩]
      rules := [⟨.text, .text, capital⟩]
      transformers := [⟨.text, .text, newline⟩] }
    let config : Config := { transformers := ["newline"] }
    let files := ((FileTree.empty.install ⟨"a.txt"⟩ (.file "ab".toUTF8)).install
      ⟨"b.txt"⟩ (.file ⟨#[255]⟩)).install ⟨"sub/c.txt"⟩ (.file "C".toUTF8)
    let paths : List Path := [⟨"a.txt"⟩, ⟨"./b.txt"⟩, ⟨"sub/../sub/c.txt"⟩]
    let schedule : List (Path × Nat) := paths.zipIdx.reverse
    let done := (fixScheduled registry config schedule).run ⟨files, []⟩
    done.1 = [.ok ⟨⟨"a.txt"⟩, "string", .text, [.converged 2], 1, true, []⟩,
      .error (.parse (.io .invalidUtf8)),
      .ok ⟨⟨"sub/../sub/c.txt"⟩, "string", .text, [.converged 1], 0, true, []⟩] ∧
    ((fixFiles registry config paths).run ⟨files, []⟩).1 = done.1 ∧
    paths.map done.2.files.readBytes = [.ok "Ab\n".toUTF8, .ok ⟨#[255]⟩, .ok "C\n".toUTF8] := by
  intro registry config files paths schedule done
  let alone (path : Path) := exec (fixFile registry config path) ⟨files, []⟩
  have halone : paths.map (fun path => (alone path).1) =
      [.ok ⟨⟨"a.txt"⟩, "string", .text, [.converged 2], 1, true, []⟩,
        .error (.parse (.io .invalidUtf8)),
        .ok ⟨⟨"sub/../sub/c.txt"⟩, "string", .text, [.converged 1], 0, true, []⟩] := by
    decide +kernel
  have hleft : paths.map (fun path => (alone path).2.files.readBytes path) =
      [.ok "Ab\n".toUTF8, .ok ⟨#[255]⟩, .ok "C\n".toUTF8] := by decide +kernel
  have hapart : Apart (Session.mk files []).files paths := apart_of_walk_ne (by decide +kernel)
  have hkeep : ∀ kind, KeepPaths registry kind config.transformers := by
    intro kind name hname transformer htransformer r diagnostics r' hr
    obtain rfl := List.mem_singleton.1 hname
    cases kind with
    | text =>
      obtain rfl : newline = transformer := Except.ok.inj htransformer
      obtain rfl := Except.ok.inj hr
      rfl
    | lines => cases htransformer
    | custom k => cases k
  have hbuilt : ∀ entry ∈ registry.parsers,
      ∃ ofText toText, entry.plugin.BuiltIn ofText toText := by
    intro entry hentry
    rcases List.mem_pair.1 hentry with rfl | rfl
    · exact ⟨_, _, .text _⟩
    · exact ⟨_, _, .lines _⟩
  obtain ⟨hresults, hsame, hread, -⟩ :=
    fixScheduled_alone hbuilt hkeep hapart (List.reverse_perm paths.zipIdx)
  have hbytes := List.map_congr_left hread
  refine ⟨hresults.trans halone, hsame, ?_⟩
  -- `done` is spelled out first, because a comparison with what it stands for would run it.
  dsimp only [done, schedule]
  exact hbytes.trans hleft

end FileRun

end Emend

import Emend.Proofs.Batch.Interrupted
import Emend.Proofs.Document.Atomic
import Emend.Proofs.Document.LineText

/-!
# Line lists that a batch leaves

Splicing makes no atoms: what is left of a document after a run of splices is of the document or of
a payload (`Batch.Spliced.mem_atoms`). So a batch puts a newline inside a line only if a payload has
one there, and then it does (`mem_substitute_of_mem`). What is written is read back as it was left
unless this happens or no line is left (`Fixer.applyWith_reads_back`).
-/

namespace Emend

/-! ## Where the atoms come from -/

section
open Shape.Atomic

variable {s : Shape} [s.Atomic] {doc cur next : s.Doc} {start stop : Nat} {payload : s.Payload}
  {done : List (Fix s.Payload)} {atom : Atom s}

theorem Shape.Atomic.mem_of_splice (h : s.splice doc start stop payload = .ok next)
    (hatom : atom ∈ atoms next) : atom ∈ atoms doc ∨ atom ∈ payloadAtoms payload := by
  obtain ⟨p, m, q, hdoc, -, -, rfl⟩ := splice_eq_ok_iff.1 h
  rw [atoms_ofAtoms, List.mem_append, List.mem_append] at hatom
  rw [hdoc, List.mem_append, List.mem_append]
  tauto

/-- The atoms of what is left are of the document or of a payload. -/
theorem Batch.Spliced.mem_atoms (h : Batch.Spliced s doc done cur) (hatom : atom ∈ atoms cur) :
    atom ∈ atoms doc ∨ ∃ fix ∈ done, atom ∈ payloadAtoms fix.payload := by
  induction h with
  | nil => exact .inl hatom
  | @concat done cur next fix range before moved splice_eq ih =>
    rcases mem_of_splice splice_eq hatom with hcur | hpayload
    · rcases ih hcur with hdoc | ⟨earlier, hearlier, hpayload⟩
      · exact .inl hdoc
      · exact .inr ⟨earlier, List.mem_append_left _ hearlier, hpayload⟩
    · exact .inr ⟨fix, List.mem_append_right _ List.mem_cons_self, hpayload⟩

end

/-- Whatever is to be put in for a span is there. -/
theorem mem_substitute_of_mem {U : Type} {units : List U} {u : U} {edits : List (Span × List U)}
    {edit : Span × List U} (start : Nat) (hedit : edit ∈ edits) (hu : u ∈ edit.2) :
    u ∈ substitute units start edits := by
  induction edits generalizing start with
  | nil => cases hedit
  | cons first edits ih =>
    rw [substitute, List.mem_append, List.mem_append]
    rcases List.mem_cons.1 hedit with rfl | hedit
    · exact .inl (.inr hu)
    · exact .inr (ih first.1.stop hedit)

/-! ## Lines that are read back -/

/-- No line has a newline inside. -/
def Lines.Unbroken (lines : List String) : Prop := ∀ line ∈ lines, '\n' ∉ line.toList

instance (lines : List String) : Decidable (Lines.Unbroken lines) :=
  inferInstanceAs (Decidable (∀ line ∈ lines, '\n' ∉ line.toList))

/-- Without newlines inside the lines, only the list of no line is not that of its text. -/
theorem Lines.ofText_toText_of_unbroken {lines : Lines} (h : Unbroken lines.toList) :
    ofText lines.toText = if lines.toList = [] then ⟨[""]⟩ else lines := by
  split
  · next hnil =>
    obtain rfl : lines = ⟨[]⟩ := by rw [← hnil]
    rfl
  · next hne => exact ofText_toText ⟨hne, h⟩

namespace Fixer

theorem spliced_of_ok {s : Shape} {fixer : Fixer s} {r : Representation s.Doc}
    {fixes : List (Fix s.Payload)} {policy : SamePointPolicy} {report : FixReport s.Payload}
    (h : (fixer.applyWith r fixes policy).result = .ok report) :
    Batch.Spliced s r.content report.applied (fixer.applyWith r fixes policy).content.content := by
  obtain ⟨shift, hrun, rfl⟩ := exists_run_of_ok h
  rw [content_applyWith (tag_eq_of_ok h)]
  exact (Batch.spliced_of_run hrun).1

/-- The lines of a text are left by a batch as lines without newlines inside, if the payloads that
are put in have none. They are then read back from the file they are written to, but for the list
of no line, for which an empty line is read. If a payload that is put in has a newline inside a
line, something else is read. -/
theorem applyWith_reads_back (own policy : SamePointPolicy) (text : String) (path : Path)
    (fixes : List (Fix (List String))) :
    let parsed : Representation Lines := ⟨.line, .ofText text, path⟩
    let done := (Fixer.lines own).applyWith parsed fixes policy
    let after : Lines := done.content.content
    (parsed.content.size + Batch.payloadTotal .lines fixes < Word.half →
      ∃ report, done.result = .ok report ∧ (Lines.ofText after.toText = after ↔
        after.toList ≠ [] ∧ ∀ fix ∈ report.applied, Lines.Unbroken fix.payload)) ∧
    (∀ report, done.result = .ok report →
      (∀ fix ∈ report.applied, Lines.Unbroken fix.payload) →
      Lines.Unbroken after.toList ∧
        Lines.ofText after.toText = if after.toList = [] then ⟨[""]⟩ else after) ∧
    ∀ extensions files, files.readText path = .ok text →
      ∃ files', (Parser.lines extensions).write files done.content = .ok files' ∧
        ((Parser.lines extensions).parseFile files' path).1 =
          .ok [⟨.line, .ofText after.toText, path⟩] := by
  intro parsed done after
  have hunbroken : ∀ report, done.result = .ok report →
      (∀ fix ∈ report.applied, Lines.Unbroken fix.payload) → Lines.Unbroken after.toList := by
    intro report hreport hpayloads line hline
    have hspliced : Batch.Spliced .lines (.ofText text) report.applied after :=
      spliced_of_ok hreport
    rcases hspliced.mem_atoms hline with htext | ⟨fix, hfix, hpayload⟩
    · exact Lines.newline_notMem_of_mem_ofText htext
    · exact hpayloads fix hfix line hpayload
  refine ⟨fun hsize => ?_, fun report hreport hpayloads => ?_, fun extensions files hread => ?_⟩
  · obtain ⟨report, hreport, hunits⟩ :=
      exists_report (Fixer.lines own) parsed fixes policy rfl hsize
    refine ⟨report, hreport, Lines.ofText_toText_iff.trans ?_⟩
    constructor
    -- A payload that is put in stays there, since all are put in at once.
    · rintro ⟨hne, hlines⟩
      refine ⟨hne, fun fix hfix line hline => hlines line ?_⟩
      have hafter : after.toList = substitute parsed.content.toList 0
          (Batch.edits report.applied) := hunits
      rw [hafter]
      exact mem_substitute_of_mem 0 (List.mem_map_of_mem hfix) hline
    · rintro ⟨hne, hpayloads⟩
      exact ⟨hne, hunbroken report hreport hpayloads⟩
  · have hlines := hunbroken report hreport hpayloads
    exact ⟨hlines, Lines.ofText_toText_of_unbroken hlines⟩
  · obtain ⟨place, hfile⟩ := FileTree.exists_located hread
    have hbuilt := Parser.BuiltIn.lines extensions
    have hpath : done.content.path = path := rfl
    exact ⟨_, hbuilt.write_located hpath hfile, hbuilt.parseFile_written hfile after⟩

/-- Lines are replaced, deleted and put at the end. The fix that would put a newline inside a line
is rejected, since it overlaps another. If instead all lines are deleted, an empty one is read. -/
theorem applyWith_reads_back_edited :
    let text := "a\nb\n\nc"
    let path : Path := ⟨"a.txt"⟩
    let fixes : List (Fix (List String)) :=
      [⟨⟨2, 3⟩, [], "x"⟩, ⟨⟨1, 2⟩, ["p", "q"], "y"⟩, ⟨⟨1, 3⟩, ["\n"], "z"⟩, .insert 4 ["", "r"] "x"]
    let deletion : List (Fix (List String)) := [⟨⟨0, 4⟩, [], "x"⟩]
    let applied : List (Fix (List String)) :=
      [⟨⟨1, 2⟩, ["p", "q"], "y"⟩, ⟨⟨2, 3⟩, [], "x"⟩, .insert 4 ["", "r"] "x"]
    let done := Fixer.lines.applyWith ⟨.line, .ofText text, path⟩ fixes .firstSubmitted
    let gone := Fixer.lines.applyWith ⟨.line, .ofText text, path⟩ deletion .rejectAll
    let after : Lines := ⟨["a", "p", "q", "c", "", "r"]⟩
    let files := FileTree.empty.install path (.file text.toUTF8)
    done.result = .ok ⟨applied, [⟨2, ⟨⟨1, 3⟩, ["\n"], "z"⟩, .conflict ⟨1, 3⟩ "y" ⟨1, 2⟩⟩], 2⟩ ∧
      done.content.content = after ∧ Lines.ofText after.toText = after ∧
      gone.content.content = ⟨[]⟩ ∧ Lines.ofText (Lines.mk []).toText = ⟨[""]⟩ ∧
      files.readText path = .ok text ∧
      ∃ files', (Parser.lines []).write files done.content = .ok files' ∧
        ((Parser.lines []).parseFile files' path).1 = .ok [⟨.line, after, path⟩] := by
  intro text path fixes deletion applied done gone after files
  have hresult : done.result =
      .ok ⟨applied, [⟨2, ⟨⟨1, 3⟩, ["\n"], "z"⟩, .conflict ⟨1, 3⟩ "y" ⟨1, 2⟩⟩], 2⟩ := by cbv
  have hafter : done.content.content = after := by cbv
  have hgone : gone.content.content = ⟨[]⟩ := by cbv
  have hdeleted : gone.result = .ok ⟨deletion, [], -4⟩ := by cbv
  have hread : files.readText path = .ok text := by decide +kernel
  have hunbroken : ∀ fix ∈ applied, Lines.Unbroken fix.payload := by decide +kernel
  have hnothing : ∀ fix ∈ deletion, Lines.Unbroken fix.payload := by decide +kernel
  obtain ⟨happlied, -, hwritten⟩ :=
    applyWith_reads_back .firstSubmitted .firstSubmitted text path fixes
  obtain ⟨report, hreport, hiff⟩ := happlied (by decide +kernel)
  obtain rfl := Except.ok.inj (hresult.symm.trans hreport)
  have hne : Lines.toList done.content.content ≠ [] := by
    rw [hafter]
    exact List.cons_ne_nil _ _
  have hback : Lines.ofText (Lines.toText done.content.content) = done.content.content :=
    hiff.2 ⟨hne, hunbroken⟩
  obtain ⟨-, hemptied, -⟩ := applyWith_reads_back .firstSubmitted .rejectAll text path deletion
  have hempty : Lines.ofText (Lines.toText gone.content.content) =
      if Lines.toList gone.content.content = [] then ⟨[""]⟩ else gone.content.content :=
    (hemptied _ hdeleted hnothing).2
  have hfile : ∃ files', (Parser.lines []).write files done.content = .ok files' ∧
      ((Parser.lines []).parseFile files' path).1 =
        .ok [⟨.line, .ofText (Lines.toText done.content.content), path⟩] :=
    hwritten [] files hread
  rw [hback] at hfile
  rw [hafter] at hback hfile
  rw [hgone] at hempty
  exact ⟨hresult, hafter, hback, hgone, hempty, hread, hfile⟩

/-- A newline in a payload makes two lines of one, and the list of no line becomes an empty line. -/
theorem read_back_differs :
    let broken := Fixer.lines.applyWith ⟨.line, .ofText "a", ⟨"a.txt"⟩⟩
      [⟨⟨0, 1⟩, ["x\ny"], "x"⟩] .firstSubmitted
    let gone := Fixer.lines.applyWith ⟨.line, .ofText "a", ⟨"a.txt"⟩⟩
      [⟨⟨0, 1⟩, [], "x"⟩] .firstSubmitted
    Lines.ofText (Lines.toText broken.content.content) ≠ broken.content.content ∧
      Lines.ofText (Lines.toText gone.content.content) ≠ gone.content.content := by
  intro broken gone
  have hbroken : broken.content.content = ⟨["x\ny"]⟩ := by cbv
  have hgone : gone.content.content = ⟨[]⟩ := by cbv
  rw [hbroken, hgone]
  decide +kernel

end Fixer

end Emend

import Emend.Parser
import Emend.Proofs.FileTree.Located

/-!
# The built-in parsers and their files

A built-in parser makes one representation of a file, and what it writes is the text of its
document (`Parser.BuiltIn`). A representation that was read from a file is written to the place of
that file (`write_located`), and what is parsed from there afterwards is the document of its text
(`parseFile_written`).
-/

namespace Emend

/-- A parser that comes with the engine, with the document of a text and the text of a document. -/
inductive Parser.BuiltIn : {s : Shape} → Parser s → (String → s.Doc) → (s.Doc → String) → Prop
  | text (extensions : List String) : BuiltIn (.text extensions) id id
  | lines (extensions : List String) : BuiltIn (.lines extensions) Lines.ofText Lines.toText

namespace Parser.BuiltIn

variable {s : Shape} {parser : Parser s} {ofText : String → s.Doc} {toText : s.Doc → String}

theorem canWrite (h : parser.BuiltIn ofText toText) : parser.canWrite := by
  cases h <;> rfl

theorem toText_ofText (h : parser.BuiltIn ofText toText) (text : String) :
    toText (ofText text) = text := by
  cases h with
  | text => rfl
  | lines => exact Lines.toText_ofText text

theorem content_eq (h : parser.BuiltIn ofText toText) (doc : s.Doc) :
    s.content doc = (toText doc).toUTF8 := by
  cases h <;> rfl

theorem write_eq (h : parser.BuiltIn ofText toText) : parser.write = writeTextOf toText := by
  cases h <;> rfl

theorem parse_eq (h : parser.BuiltIn ofText toText) (source : String) (path : Path) :
    parser.parse source path = .ok [⟨parser.tag, ofText source, path⟩] := by
  cases h <;> rfl

theorem parseFile_eq (h : parser.BuiltIn ofText toText) (files : FileTree) (path : Path) :
    parser.parseFile files path =
      match files.readText path with
      | .error e => (.error (.io e), [])
      | .ok source => (parser.parse source path, parser.parseLog source path) := by
  cases h <;> rfl

theorem parseFile_of_readText (h : parser.BuiltIn ofText toText) {files : FileTree} {path : Path}
    {source : String} (hsource : files.readText path = .ok source) :
    (parser.parseFile files path).1 = .ok [⟨parser.tag, ofText source, path⟩] := by
  rw [h.parseFile_eq, hsource, ← h.parse_eq]

/-- There is one representation, and it is made of the text of the file. -/
theorem parseFile_eq_ok (h : parser.BuiltIn ofText toText) {files : FileTree} {path : Path}
    {representations : List (Representation s.Doc)}
    (hparsed : (parser.parseFile files path).1 = .ok representations) : ∃ source,
    files.readText path = .ok source ∧
      representations = [⟨parser.tag, ofText source, path⟩] := by
  rw [h.parseFile_eq] at hparsed
  split at hparsed
  · cases hparsed
  · next source hsource =>
    rw [h.parse_eq] at hparsed
    cases hparsed
    exact ⟨source, hsource, rfl⟩

/-! ## Writing and reading -/

variable {files : FileTree} {path : Path} {place : Place} {bytes : ByteArray}
  {r : Representation s.Doc}

/-- A representation with the path of a file is written to the place of the file. -/
theorem write_located (h : parser.BuiltIn ofText toText) (hpath : r.path = path)
    (hfile : files.Located path place bytes) :
    parser.write files r = .ok (files.put place (.file (toText r.content).toUTF8)) := by
  rw [h.write_eq, writeTextOf, FileTree.writeText, hpath, hfile.writeBytes_eq]

/-- What is parsed after that is the document of the text that was written. -/
theorem parseFile_written (h : parser.BuiltIn ofText toText)
    (hfile : files.Located path place bytes) (doc : s.Doc) :
    (parser.parseFile (files.put place (.file (toText doc).toUTF8)) path).1 =
      .ok [⟨parser.tag, ofText (toText doc), path⟩] :=
  h.parseFile_of_readText (hfile.put _).readText_eq

/-- Writing a document back as it was parsed leaves the text of the file and every node as they
were. -/
theorem write_parsed (h : parser.BuiltIn ofText toText) {source : String}
    (hread : files.readText path = .ok source) :
    ∃ files', parser.write files ⟨parser.tag, ofText source, path⟩ = .ok files' ∧
      files'.readText path = .ok source ∧ ∀ place, files'.node? place = files.node? place := by
  obtain ⟨place, hfile⟩ := FileTree.exists_located hread
  have hwritten := h.write_located (r := ⟨parser.tag, ofText source, path⟩) rfl hfile
  rw [h.toText_ofText] at hwritten
  refine ⟨_, hwritten, (hfile.put _).readText_eq, fun other => ?_⟩
  rw [FileTree.node?_put files (FileTree.names_ne_nil_of_file hfile.node_eq)]
  by_cases hother : other = place
  · rw [if_pos hother, hother, hfile.node_eq]
  · rw [if_neg hother]

end Parser.BuiltIn

end Emend

import Emend.Proofs.Parser.BuiltIn

/-!
# Texts and their lines

Splitting a text into lines and joining lines to a text are inverse to each other. Every text comes
back from its lines, and of the line lists exactly the proper ones come back from their text: those
with at least one line and no newline inside a line (`Lines.ofText_toText_iff`). So a file that is
parsed into lines and written back holds the bytes that it held (`Lines.converts_exactly`).
-/

namespace Emend

namespace Lines

theorem proper_ofText (text : String) : (ofText text).Proper :=
  ⟨ofText_ne_nil text, fun _ => newline_notMem_of_mem_ofText⟩

/-- The line lists that come back from their text are those that come from a text. -/
theorem ofText_toText_iff {lines : Lines} : ofText lines.toText = lines ↔ lines.Proper := by
  constructor
  · intro h
    rw [← h]
    exact proper_ofText lines.toText
  · exact ofText_toText

/-- The lines of a text are one or more and have no newline inside, and they join to the text. A
line list is that of its text exactly if it is such a list. A file of any text that is parsed into
lines and written back as it was parsed has the same bytes, and all else is as it was too. -/
theorem converts_exactly :
    (∀ text, (ofText text).toList ≠ [] ∧ (∀ line ∈ (ofText text).toList, '\n' ∉ line.toList) ∧
      (ofText text).toText = text) ∧
    (∀ lines : Lines, ofText lines.toText = lines ↔
      lines.toList ≠ [] ∧ ∀ line ∈ lines.toList, '\n' ∉ line.toList) ∧
    ∀ (extensions : List String) (files : FileTree) (path : Path) (text : String),
      files.readBytes path = .ok text.toUTF8 →
      ∃ r files', ((Parser.lines extensions).parseFile files path).1 = .ok [r] ∧
        (Parser.lines extensions).write files r = .ok files' ∧
        files'.readBytes path = .ok text.toUTF8 ∧
        ∀ place, files'.node? place = files.node? place := by
  refine ⟨fun text => ⟨ofText_ne_nil text, fun _ => newline_notMem_of_mem_ofText,
    toText_ofText text⟩, fun lines => ofText_toText_iff, ?_⟩
  intro extensions files path text hbytes
  have hread := FileTree.readText_eq_ok_iff.2 hbytes
  have hbuilt := Parser.BuiltIn.lines extensions
  obtain ⟨files', hwrite, hread', hnodes⟩ := hbuilt.write_parsed hread
  exact ⟨_, files', hbuilt.parseFile_of_readText hread, hwrite,
    FileTree.readText_eq_ok_iff.1 hread', hnodes⟩

/-- A file with both line endings, an empty line and a newline at its end. -/
theorem converts_exactly_mixed :
    let files := FileTree.empty.install ⟨"a.txt"⟩ (.file "one\r\n\ntwo\n".toUTF8)
    ofText "one\r\n\ntwo\n" = ⟨["one\r", "", "two", ""]⟩ ∧
      files.readBytes ⟨"a.txt"⟩ = .ok "one\r\n\ntwo\n".toUTF8 ∧
      ∃ r files', ((Parser.lines []).parseFile files ⟨"a.txt"⟩).1 = .ok [r] ∧
        (Parser.lines []).write files r = .ok files' ∧
        files'.readBytes ⟨"a.txt"⟩ = .ok "one\r\n\ntwo\n".toUTF8 ∧
        ∀ place, files'.node? place = files.node? place := by
  intro files
  have hfile : files.readBytes ⟨"a.txt"⟩ = .ok "one\r\n\ntwo\n".toUTF8 := by decide +kernel
  exact ⟨by decide +kernel, hfile, converts_exactly.2.2 [] files ⟨"a.txt"⟩ _ hfile⟩

end Lines

end Emend

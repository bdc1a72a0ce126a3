import Emend.Document.Lines
import Emend.Document.Text
import Emend.Error.Parse
import Emend.Log
import Emend.Representation

/-!
# Parsers

A parser makes representations of a file's text, one or several, and may be able to write one
back. Where it says no more, it parses what it reads at the path of a file, and the files it can
parse are those with an extension that it claims. The built-in parsers take the whole text as it
is, or split it into lines.
-/

namespace Emend

/-- Upper-case ASCII letters as lower-case ones, all else as it is. -/
def foldAscii (s : String) : String := String.ofList (s.toList.map Char.toLower)

/-- Is `extension` among those claimed? The case of ASCII letters does not count. -/
def claims (extensions : List String) (extension : String) : Bool :=
  extensions.any fun claimed => foldAscii claimed == foldAscii extension

/-- A parser for one kind of document. -/
structure Parser (s : Shape) where
  name : String
  description : String
  /-- The file extensions that the parser claims. -/
  extensions : List String
  /-- The tag of what the parser makes. -/
  tag : Tag
  /-- The representations of a text that was read from a file. -/
  parse : String → Path → Except ParseError (List (Representation s.Doc))
  /-- What parsing logs. -/
  parseLog : String → Path → List Event := fun _ _ => []
  /-- The representations of a file, and what is logged. -/
  parseFile : FileTree → Path → Except ParseError (List (Representation s.Doc)) × List Event :=
    fun files path =>
      match files.readText path with
      | .error e => (.error (.io e), [])
      | .ok source => (parse source path, parseLog source path)
  /-- Can the parser make something of files with the extension? -/
  canParse : String → Bool := claims extensions
  canWrite : Bool := false
  /-- The files after a representation was written back. -/
  write : FileTree → Representation s.Doc → Except ParseError FileTree :=
    fun _ _ => .error (.unsupported s!"parser {name} cannot write")

namespace Parser

variable {s : Shape}

/-- What a parser says of itself. -/
instance : ToJson (Parser s) where
  toJson parser := .object
    [("can_write", toJson parser.canWrite), ("description", toJson parser.description),
      ("extensions", toJson parser.extensions), ("ir_type", toJson parser.tag),
      ("name", toJson parser.name)]

/-- Writes the text of a representation to its path. -/
def writeTextOf (text : s.Doc → String) (files : FileTree) (r : Representation s.Doc) :
    Except ParseError FileTree :=
  match files.writeText r.path (text r.content) with
  | .ok files => .ok files
  | .error e => .error (.io e)

/-- The extensions that the built-in parsers claim. -/
def defaultExtensions : List String := ["txt", "text"]

/-- The parser that takes a text as it is. -/
def text (extensions : List String := defaultExtensions) : Parser .text where
  name := "string"
  description := "Treats the whole file as a single string"
  extensions := extensions
  tag := .text
  parse source path := .ok [⟨.text, source, path⟩]
  parseLog source path := [.parsedText path source.utf8ByteSize]
  canWrite := true
  write := writeTextOf (s := .text) id

/-- The parser that splits a text into lines. -/
def lines (extensions : List String := defaultExtensions) : Parser .lines where
  name := "line"
  description := "Splits the file into lines"
  extensions := extensions
  tag := .line
  parse source path := .ok [⟨.line, .ofText source, path⟩]
  parseLog source path := [.parsedLines path (Lines.ofText source).size]
  canWrite := true
  write := writeTextOf (s := .lines) Lines.toText

end Parser

end Emend

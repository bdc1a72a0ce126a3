import Emend.Json.Value
import Emend.Text.Bytes
import Emend.Word

/-!
# Reading JSON text

A strict reader: one value, blanks of four kinds around the tokens, no comments. A text that is
no JSON is refused with a cause and the place where reading stopped, a line from 1 and a column
that counts bytes.

## Algorithm

Reading goes over the characters from the left and hands on those that are left. A fault keeps the
characters left where it struck and how many bytes past them the place lies, so that lines and
columns are worked out once, in `ReadError.ofFault`. Arrays and objects nest less than
`deepest` levels.
-/

namespace Emend.Json

/-- Why a text is no JSON. -/
inductive ReadCause where
  | endInArray
  | endInObject
  | endInString
  | endInValue
  | expectedColon
  | expectedCommaOrBracket
  | expectedCommaOrBrace
  | expectedWord
  | expectedValue
  | invalidEscape
  | invalidNumber
  | numberOutOfRange
  | controlCharacter
  | keyNotString
  | loneSurrogate
  | unfinishedPair
  | trailingComma
  | trailingCharacters
  | tooDeep
  deriving DecidableEq

/-- The wording of a cause. -/
def ReadCause.message : ReadCause → String
  | endInArray => "EOF while parsing a list"
  | endInObject => "EOF while parsing an object"
  | endInString => "EOF while parsing a string"
  | endInValue => "EOF while parsing a value"
  | expectedColon => "expected `:`"
  | expectedCommaOrBracket => "expected `,` or `]`"
  | expectedCommaOrBrace => "expected `,` or `\x7d`"
  | expectedWord => "expected ident"
  | expectedValue => "expected value"
  | invalidEscape => "invalid escape"
  | invalidNumber => "invalid number"
  | numberOutOfRange => "number out of range"
  | controlCharacter =>
    "control character (\\u0000-\\u001F) found while parsing a string"
  | keyNotString => "key must be a string"
  | loneSurrogate => "lone leading surrogate in hex escape"
  | unfinishedPair => "unexpected end of hex escape"
  | trailingComma => "trailing comma"
  | trailingCharacters => "trailing characters"
  | tooDeep => "recursion limit exceeded"

/-- A text that is no JSON. -/
structure ReadError where
  cause : ReadCause
  line : Nat
  column : Nat
  deriving DecidableEq

/-- The wording of an error. -/
def ReadError.message (e : ReadError) : String :=
  s!"{e.cause.message} at line {e.line} column {e.column}"

/-- A fault `past` bytes after the point where `rest` is left. -/
structure Fault where
  cause : ReadCause
  rest : List Char
  past : Nat

/-- The error of a fault in `text`. -/
def ReadError.ofFault (text : String) (f : Fault) : ReadError :=
  let total := text.utf8ByteSize
  let offset := min total (total - Text.size f.rest + f.past)
  let before := text.toUTF8.toList.take offset
  let line := before.reverse.takeWhile (· != 10)
  ⟨f.cause, 1 + before.count 10, line.length⟩

/-- What is read, and the characters left. -/
abbrev Reading (α : Type) := α × List Char

/-- A fault at the point where `rest` is left. -/
def here {α : Type} (cause : ReadCause) (rest : List Char) : Except Fault α :=
  .error ⟨cause, rest, 0⟩

/-- A fault at the next byte. -/
def next {α : Type} (cause : ReadCause) (rest : List Char) : Except Fault α :=
  .error ⟨cause, rest, 1⟩

/-- Blanks between tokens. -/
def isSpace (c : Char) : Bool := c = ' ' || c = '\n' || c = '\t' || c = '\r'

/-- The text without the blanks at its front. -/
def skipSpace (cs : List Char) : List Char := cs.dropWhile isSpace

/-- Reads the characters of `word`. -/
def readWord (word : List Char) (value : Json) (cs : List Char) : Except Fault (Reading Json) :=
  match word, cs with
  | [], cs => .ok (value, cs)
  | _ :: _, [] => here .endInValue []
  | w :: word, c :: cs => if w = c then readWord word value cs else next .expectedWord (c :: cs)

/-- The number that decimal digits write. -/
def ofDigits (digits : List Char) : Nat :=
  digits.foldl (fun n c => 10 * n + (c.toNat - 48)) 0

/-- The greatest exponent that is read to its end. -/
def greatestExponent : Nat := 2147483647

/-- Reads the digits of an exponent after the first ones, which are worth `acc`. The place where
the exponent grows too large is an error. -/
def readExponent (acc : Nat) : List Char → Except (List Char) (Nat × List Char)
  | [] => .ok (acc, [])
  | c :: cs =>
    if c.isDigit then
      let exp := 10 * acc + (c.toNat - 48)
      if greatestExponent < exp then .error cs else readExponent exp cs
    else .ok (acc, c :: cs)

/-- The float `digits * 10 ^ exp`, read up to `rest`. -/
def floatOf (negative : Bool) (digits : Nat) (exp : Int) (rest : List Char) :
    Except Fault (Reading Json) :=
  match Binary64.ofDecimal? negative digits exp with
  | some x => .ok (float x, rest)
  | none => here .numberOutOfRange rest

/-- Reads an exponent behind its letter; `digits * 10 ^ exp` is the number so far. -/
def readScale (negative : Bool) (digits : Nat) (exp : Int) (cs : List Char) :
    Except Fault (Reading Json) :=
  let (down, cs) := match cs with
    | '+' :: cs => (false, cs)
    | '-' :: cs => (true, cs)
    | cs => (false, cs)
  match cs with
  | [] => here .endInValue []
  | c :: rest =>
    if c.isDigit then
      match readExponent 0 (c :: rest) with
      | .ok (n, rest) => floatOf negative digits (if down then exp - n else exp + n) rest
      | .error rest =>
        if digits ≠ 0 ∧ ¬down then here .numberOutOfRange rest
        else .ok (float (.zero negative), rest.dropWhile Char.isDigit)
    else next .invalidNumber (c :: rest)

/-- An integer without fraction and exponent. One that fits no word is a float, as is `-0`. -/
def integerOf (negative : Bool) (digits : Nat) (rest : List Char) :
    Except Fault (Reading Json) :=
  if negative then
    if digits ≠ 0 ∧ digits ≤ Word.half then .ok (int (-digits), rest)
    else floatOf negative digits 0 rest
  else if digits < Word.bound then .ok (int digits, rest)
  else floatOf negative digits 0 rest

/-- Reads a number behind its sign. -/
def readNumber (negative : Bool) (cs : List Char) : Except Fault (Reading Json) :=
  match cs with
  | [] => here .endInValue []
  | c :: rest =>
    if !c.isDigit then next .invalidNumber (c :: rest)
    else if c = '0' ∧ rest.head?.any Char.isDigit then next .invalidNumber rest
    else
      let (whole, rest) := (c :: rest).span Char.isDigit
      match rest with
      | '.' :: rest =>
        let (fraction, rest) := rest.span Char.isDigit
        if fraction.isEmpty then
          next (if rest.isEmpty then .endInValue else .invalidNumber) rest
        else
          let digits := ofDigits (whole ++ fraction)
          let exp : Int := -fraction.length
          match rest with
          | 'e' :: rest => readScale negative digits exp rest
          | 'E' :: rest => readScale negative digits exp rest
          | rest => floatOf negative digits exp rest
      | 'e' :: rest => readScale negative (ofDigits whole) 0 rest
      | 'E' :: rest => readScale negative (ofDigits whole) 0 rest
      | rest => integerOf negative (ofDigits whole) rest

/-- The value of a hexadecimal digit. -/
def hexDigit? (c : Char) : Option Nat :=
  if c.isDigit then some (c.toNat - 48)
  else if 'a' ≤ c ∧ c ≤ 'f' then some (c.toNat - 87)
  else if 'A' ≤ c ∧ c ≤ 'F' then some (c.toNat - 55)
  else none

/-- The value of four hexadecimal digits. -/
def hex4? (a b c d : Char) : Option Nat := do
  return (((← hexDigit? a) * 16 + (← hexDigit? b)) * 16 + (← hexDigit? c)) * 16 + (← hexDigit? d)

/-- Reads four hexadecimal digits. -/
def readHex4 (cs : List Char) : Except Fault (Reading Nat) :=
  if Text.size cs < 4 then here .endInString []
  else
    match cs with
    | a :: b :: c :: d :: rest =>
      match hex4? a b c d with
      | some n => .ok (n, rest)
      | none => .error ⟨.invalidEscape, cs, 4⟩
    | _ => .error ⟨.invalidEscape, cs, 4⟩

/-- Is `n` the first half of a pair that writes one character? -/
def isHighSurrogate (n : Nat) : Bool := 0xd800 ≤ n && n ≤ 0xdbff

/-- Is `n` the second half of a pair that writes one character? -/
def isLowSurrogate (n : Nat) : Bool := 0xdc00 ≤ n && n ≤ 0xdfff

/-- The character that a pair writes. -/
def ofSurrogates (high low : Nat) : Char :=
  Char.ofNat (0x10000 + (high - 0xd800) * 0x400 + (low - 0xdc00))

/-- Reads the rest of an escape by number. -/
def readUnicode (cs : List Char) : Except Fault (Reading Char) := do
  let (n, rest) ← readHex4 cs
  if isLowSurrogate n then here .loneSurrogate rest
  else if isHighSurrogate n then
    match rest with
    | [] => here .endInString []
    | '\\' :: [] => here .endInString []
    | '\\' :: 'u' :: rest =>
      let (low, rest) ← readHex4 rest
      if isLowSurrogate low then return (ofSurrogates n low, rest)
      else here .loneSurrogate rest
    | '\\' :: rest => next .unfinishedPair rest
    | rest => next .unfinishedPair rest
  else return (Char.ofNat n, rest)

/-- Reads an escape behind its backslash. -/
def readEscape (cs : List Char) : Except Fault (Reading Char) :=
  match cs with
  | [] => here .endInString []
  | '"' :: rest => .ok ('"', rest)
  | '\\' :: rest => .ok ('\\', rest)
  | '/' :: rest => .ok ('/', rest)
  | 'b' :: rest => .ok ('\x08', rest)
  | 'f' :: rest => .ok ('\x0c', rest)
  | 'n' :: rest => .ok ('\n', rest)
  | 'r' :: rest => .ok ('\r', rest)
  | 't' :: rest => .ok ('\t', rest)
  | 'u' :: rest => readUnicode rest
  | rest => next .invalidEscape rest

/-- Reads a string behind its opening quote; `acc` holds the characters so far, last first. -/
def readString (fuel : Nat) (acc : List Char) (cs : List Char) : Except Fault (Reading String) :=
  match fuel, cs with
  | 0, _ => here .endInString []
  | _, [] => here .endInString []
  | _, '"' :: rest => .ok (String.ofList acc.reverse, rest)
  | fuel + 1, '\\' :: rest => do
    let (c, rest) ← readEscape rest
    readString fuel (c :: acc) rest
  | fuel + 1, c :: rest =>
    if c.toNat < 0x20 then next .controlCharacter (c :: rest)
    else readString fuel (c :: acc) rest

/-- Arrays and objects nest less than this. -/
def deepest : Nat := 128

mutual

/-- Reads a value; `depth` more levels may open. -/
def readValue (fuel depth : Nat) (cs : List Char) : Except Fault (Reading Json) :=
  match fuel, skipSpace cs with
  | 0, _ => here .endInValue []
  | _, [] => here .endInValue []
  | _, 'n' :: rest => readWord ['u', 'l', 'l'] null rest
  | _, 't' :: rest => readWord ['r', 'u', 'e'] (bool true) rest
  | _, 'f' :: rest => readWord ['a', 'l', 's', 'e'] (bool false) rest
  | _, '-' :: rest => readNumber true rest
  | fuel + 1, '"' :: rest => do
    let (s, rest) ← readString (fuel + 1) [] rest
    return (string s, rest)
  | fuel + 1, '[' :: rest =>
    if depth ≤ 1 then next .tooDeep ('[' :: rest)
    else
      match skipSpace rest with
      | [] => here .endInArray []
      | ']' :: rest => .ok (array [], rest)
      | rest => do
        let (items, rest) ← readItems fuel (depth - 1) [] rest
        return (array items, rest)
  | fuel + 1, '\x7b' :: rest =>
    if depth ≤ 1 then next .tooDeep ('\x7b' :: rest)
    else
      match skipSpace rest with
      | [] => here .endInObject []
      | '\x7d' :: rest => .ok (object [], rest)
      | '"' :: rest => do
        let (members, rest) ← readMembers fuel (depth - 1) [] rest
        return (ofMembers members, rest)
      | rest => next .keyNotString rest
  | _, c :: rest =>
    if c.isDigit then readNumber false (c :: rest) else next .expectedValue (c :: rest)

/-- Reads an item and those behind it; `acc` holds the items so far, last first. -/
def readItems (fuel depth : Nat) (acc : List Json) (cs : List Char) :
    Except Fault (Reading (List Json)) :=
  match fuel with
  | 0 => here .endInArray []
  | fuel + 1 => do
    let (item, rest) ← readValue fuel depth cs
    match skipSpace rest with
    | [] => here .endInArray []
    | ']' :: rest => return ((item :: acc).reverse, rest)
    | ',' :: rest =>
      match skipSpace rest with
      | [] => here .endInValue []
      | ']' :: rest => next .trailingComma (']' :: rest)
      | rest => readItems fuel depth (item :: acc) rest
    | rest => next .expectedCommaOrBracket rest

/-- Reads a member behind the quote that opens its key, and those behind it; `acc` holds the
members so far, last first. -/
def readMembers (fuel depth : Nat) (acc : List (String × Json)) (cs : List Char) :
    Except Fault (Reading (List (String × Json))) :=
  match fuel with
  | 0 => here .endInObject []
  | fuel + 1 => do
    let (key, rest) ← readString (fuel + 1) [] cs
    match skipSpace rest with
    | [] => here .endInObject []
    | ':' :: rest =>
      let (value, rest) ← readValue fuel depth rest
      match skipSpace rest with
      | [] => here .endInObject []
      | '\x7d' :: rest => return (((key, value) :: acc).reverse, rest)
      | ',' :: rest =>
        match skipSpace rest with
        | [] => here .endInValue []
        | '"' :: rest => readMembers fuel depth ((key, value) :: acc) rest
        | '\x7d' :: rest => next .trailingComma ('\x7d' :: rest)
        | rest => next .keyNotString rest
      | rest => next .expectedCommaOrBrace rest
    | rest => next .expectedColon rest

end

/-- Reads a text that holds one value. -/
def read (text : String) : Except ReadError Json :=
  let cs := text.toList
  let result : Except Fault Json := do
    let (value, rest) ← readValue (2 * cs.length + 2) deepest cs
    match skipSpace rest with
    | [] => return value
    | rest => next .trailingCharacters rest
  match result with
  | .ok value => .ok value
  | .error fault => .error (.ofFault text fault)

end Emend.Json

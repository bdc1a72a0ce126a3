import Emend.Json.Reader
import Emend.Text.Alphanumeric

/-!
# Tokens of JSON with comments

White space and comments separate tokens. Besides what JSON has there are strings between single
quotes, numbers with a plus sign or in hexadecimal, and bare words.

## Algorithm

`scan` cuts the text into tokens, each kept with the text from its first character on, by which an
error finds its place. What no token can be read from ends the list with a fault: whoever reads
the tokens meets it only after those before it.
-/

namespace Emend.Jsonc

/-- A token. Numbers and words keep their text. -/
inductive Token where
  | openBrace
  | closeBrace
  | openBracket
  | closeBracket
  | comma
  | colon
  | string (s : String)
  | word (s : String)
  | number (text : String)
  | bool (b : Bool)
  | null
  deriving DecidableEq

/-- Why a text is refused. -/
inductive Cause where
  | unexpectedToken
  | unterminatedComment
  | unterminatedString
  | invalidEscape
  | doubleQuoteEscape
  | singleQuoteEscape
  | expectedHexDigits
  | unpairedHigh (digits : String)
  | unpairedLow (digits : String)
  | highWithoutLow (digits : String)
  | digitAfterSign
  | expectedDigit
  | expectedExponent
  | unexpectedWord
  | unexpectedCloseBrace
  | unexpectedCloseBracket
  | unexpectedComma
  | unexpectedColon
  | unexpectedInObject
  | expectedColon
  | expectedValue
  | unterminatedObject
  | unterminatedArray
  | severalValues
  deriving DecidableEq

/-- The wording for a number that is no character. -/
def Cause.noCharacter (digits why : String) : String :=
  s!"Invalid unicode escape sequence. '{digits} ({why})' is not a valid UTF8 character"

/-- The wording of a cause. -/
def Cause.message : Cause → String
  | unexpectedToken => "Unexpected token"
  | unterminatedComment => "Unterminated comment block"
  | unterminatedString => "Unterminated string literal"
  | invalidEscape => "Invalid escape"
  | doubleQuoteEscape => "Invalid escape in double quote string"
  | singleQuoteEscape => "Invalid escape in single quote string"
  | expectedHexDigits => "Expected four hex digits"
  | unpairedHigh digits => noCharacter digits "unpaired high surrogate"
  | unpairedLow digits => noCharacter digits "unpaired low surrogate"
  | highWithoutLow digits => noCharacter digits "high surrogate not followed by low surrogate"
  | digitAfterSign => "Expected digit following negative sign"
  | expectedDigit => "Expected digit"
  | expectedExponent => "Expected plus, minus, or digit in number literal"
  | unexpectedWord => "Unexpected word"
  | unexpectedCloseBrace => "Unexpected close brace"
  | unexpectedCloseBracket => "Unexpected close bracket"
  | unexpectedComma => "Unexpected comma"
  | unexpectedColon => "Unexpected colon"
  | unexpectedInObject => "Unexpected token in object"
  | expectedColon => "Expected colon after the string or word in object property"
  | expectedValue => "Expected value after colon in object property"
  | unterminatedObject => "Unterminated object"
  | unterminatedArray => "Unterminated array"
  | severalValues => "Text cannot contain more than one JSON value"

/-- A fault at the first of the characters in `rest`. -/
structure Fault where
  cause : Cause
  rest : List Char
  deriving DecidableEq

/-- A token with the text from its first character on. -/
structure Placed where
  token : Token
  rest : List Char
  deriving DecidableEq

/-- A fault at `rest`. -/
def fault {α : Type} (cause : Cause) (rest : List Char) : Except Fault α := .error ⟨cause, rest⟩

/-- The text behind the end of a comment block. -/
def skipBlock : List Char → Option (List Char)
  | [] => none
  | '*' :: '/' :: rest => some rest
  | _ :: rest => skipBlock rest

/-- The text without the white space and the comments at its front. -/
def skip (fuel : Nat) (cs : List Char) : Except Fault (List Char) :=
  match fuel, cs.dropWhile Text.isBlank with
  | 0, rest => .ok rest
  | fuel + 1, '/' :: '/' :: rest => skip fuel (rest.dropWhile (· != '\n'))
  | fuel + 1, '/' :: '*' :: rest =>
    match skipBlock rest with
    | some rest => skip fuel rest
    | none => fault .unterminatedComment ('/' :: '*' :: rest)
  | _, rest => .ok rest

/-- Four hexadecimal digits at the front: their text, their value and what follows. -/
def fourDigits? : List Char → Option (String × Nat × List Char)
  | a :: b :: c :: d :: rest =>
    (Json.hex4? a b c d).map fun n => (String.ofList [a, b, c, d], n, rest)
  | _ => none

/-- Reads an escape by number behind its letter; `start` is the text from the backslash on. -/
def scanUnicode (start cs : List Char) : Except Fault (Char × List Char) :=
  match fourDigits? cs with
  | none => fault .expectedHexDigits start
  | some (digits, n, rest) =>
    if Json.isLowSurrogate n then fault (.unpairedLow digits) start
    else if Json.isHighSurrogate n then
      match rest with
      | '\\' :: 'u' :: rest =>
        match fourDigits? rest with
        | none => fault .expectedHexDigits start
        | some (_, low, rest) =>
          if Json.isLowSurrogate low then .ok (Json.ofSurrogates n low, rest)
          else fault (.highWithoutLow digits) start
      | _ => fault (.unpairedHigh digits) start
    else .ok (Char.ofNat n, rest)

/-- Reads an escape in a string between `quote`s, `cs` being the text behind the backslash. -/
def scanEscape (quote : Char) (start cs : List Char) : Except Fault (Char × List Char) :=
  match cs with
  | 'u' :: rest => scanUnicode start rest
  | 'b' :: rest => .ok ('\x08', rest)
  | 'f' :: rest => .ok ('\x0c', rest)
  | 'n' :: rest => .ok ('\n', rest)
  | 'r' :: rest => .ok ('\r', rest)
  | 't' :: rest => .ok ('\t', rest)
  | '\\' :: rest => .ok ('\\', rest)
  | '/' :: rest => .ok ('/', rest)
  | '"' :: rest => if quote = '"' then .ok ('"', rest) else fault .singleQuoteEscape start
  | '\'' :: rest => if quote = '"' then fault .doubleQuoteEscape start else .ok ('\'', rest)
  | _ => fault .invalidEscape start

/-- Reads a string behind its opening `quote`, from which on the text is `start`; `acc` holds the
characters so far, last first. -/
def scanString (fuel : Nat) (quote : Char) (start acc cs : List Char) :
    Except Fault (Token × List Char) :=
  match fuel, cs with
  | 0, _ | _, [] | _, ['\\'] => fault .unterminatedString start
  | fuel + 1, c :: rest =>
    if c = quote then .ok (.string (String.ofList acc.reverse), rest)
    else if c = '\\' then do
      let (c, rest) ← scanEscape quote (c :: rest) rest
      scanString fuel quote start (c :: acc) rest
    else scanString fuel quote start (c :: acc) rest

/-- One or more decimal digits at the front. -/
def digits (cs : List Char) : Except Fault (List Char × List Char) :=
  let (ds, rest) := cs.span Char.isDigit
  if ds.isEmpty then fault .expectedDigit rest else .ok (ds, rest)

/-- The fraction at the front, if there is one. -/
def scanFraction : List Char → Except Fault (List Char × List Char)
  | '.' :: rest => do
    let (ds, rest) ← digits rest
    return ('.' :: ds, rest)
  | rest => .ok ([], rest)

/-- The exponent at the front, if there is one. -/
def scanExponent : List Char → Except Fault (List Char × List Char)
  | [] => .ok ([], [])
  | e :: rest =>
    if e = 'e' ∨ e = 'E' then
      match rest with
      | [] => fault .expectedExponent []
      | sign :: behind =>
        if sign = '+' ∨ sign = '-' then do
          let (ds, rest) ← digits behind
          return (e :: sign :: ds, rest)
        else if sign.isDigit then do
          let (ds, rest) ← digits rest
          return (e :: ds, rest)
        else fault .expectedExponent rest
    else .ok ([], e :: rest)

/-- Reads a number behind its sign: its characters and what follows. -/
def scanUnsigned (cs : List Char) : Except Fault (List Char × List Char) :=
  match cs with
  | [] => fault .digitAfterSign []
  | c :: rest =>
    if !c.isDigit then fault .digitAfterSign (c :: rest)
    else
      let (whole, rest) := if c = '0' then (['0'], rest) else (c :: rest).span Char.isDigit
      match whole, rest with
      | ['0'], x :: behind =>
        if x = 'x' ∨ x = 'X' then
          let (ds, rest) := behind.span fun c => (Json.hexDigit? c).isSome
          if ds.isEmpty then fault .expectedDigit behind else .ok ('0' :: x :: ds, rest)
        else decimal whole (x :: behind)
      | whole, rest => decimal whole rest
where
  /-- The fraction and the exponent behind the digits of `whole`. -/
  decimal (whole rest : List Char) : Except Fault (List Char × List Char) := do
    let (fraction, rest) ← scanFraction rest
    let (exponent, rest) ← scanExponent rest
    return (whole ++ fraction ++ exponent, rest)

/-- Reads a number. -/
def scanNumber (cs : List Char) : Except Fault (Token × List Char) := do
  let sign := (cs.take 1).filter fun c => c = '+' || c = '-'
  let (text, rest) ← scanUnsigned (cs.drop sign.length)
  return (.number (String.ofList (sign ++ text)), rest)

/-- May `c` stand in a bare word? -/
def isWordChar (c : Char) : Bool := Text.isAlphanumeric c || c = '-' || c = '_'

/-- Reads a bare word: all up to white space or a colon must be letters, digits, `-` or `_`. -/
def scanWord (cs : List Char) : Except Fault (Token × List Char) :=
  let (word, rest) := cs.span fun c => !(Text.isBlank c || c = ':')
  if word.all isWordChar && !word.isEmpty then .ok (.word (String.ofList word), rest)
  else fault .unexpectedToken cs

/-- What follows `word`, if it stands at the front as a word of its own. -/
def keyword? (word cs : List Char) : Option (List Char) :=
  let rest := cs.drop word.length
  if word.isPrefixOf cs && !rest.head?.any Text.isAlphanumeric then some rest else none

/-- The words that stand for values. -/
def keywords : List (List Char × Token) :=
  [(['t', 'r', 'u', 'e'], .bool true), (['f', 'a', 'l', 's', 'e'], .bool false),
    (['n', 'u', 'l', 'l'], .null)]

/-- Reads the token at the front. -/
def scanToken (cs : List Char) : Except Fault (Token × List Char) :=
  match cs with
  | '\x7b' :: rest => .ok (.openBrace, rest)
  | '\x7d' :: rest => .ok (.closeBrace, rest)
  | '[' :: rest => .ok (.openBracket, rest)
  | ']' :: rest => .ok (.closeBracket, rest)
  | ',' :: rest => .ok (.comma, rest)
  | ':' :: rest => .ok (.colon, rest)
  | '"' :: rest => scanString cs.length '"' cs [] rest
  | '\'' :: rest => scanString cs.length '\'' cs [] rest
  | '/' :: _ => fault .unexpectedToken cs
  | c :: _ =>
    if c = '-' ∨ c = '+' ∨ c.isDigit then scanNumber cs
    else
      match keywords.findSome? fun (word, token) => (keyword? word cs).map fun r => (token, r) with
      | some read => .ok read
      | none => scanWord cs
  | [] => fault .unexpectedToken cs

/-- The tokens of a text, and the fault that ends them, if one does. -/
structure Tokens where
  placed : List Placed
  fault? : Option Fault

/-- Cuts `cs` into tokens. -/
def scan (fuel : Nat) (cs : List Char) : Tokens :=
  match fuel, skip cs.length cs with
  | _, .error f => ⟨[], some f⟩
  | 0, _ | _, .ok [] => ⟨[], none⟩
  | fuel + 1, .ok cs =>
    match scanToken cs with
    | .error f => ⟨[], some f⟩
    | .ok (token, rest) =>
      let behind := scan fuel rest
      ⟨⟨token, cs⟩ :: behind.placed, behind.fault?⟩

end Emend.Jsonc

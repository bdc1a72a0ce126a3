import Emend.Jsonc.Token

/-!
# Values of JSON with comments

One comma between two items or two members may be missing and one may stand behind the last. Keys
are strings, words or numbers, of which the text counts. A text without tokens has no value.
An error is placed by a line and a column, both from 1; columns count characters.
-/

namespace Emend.Jsonc

/-- A text that is no JSON with comments. -/
structure ReadError where
  cause : Cause
  line : Nat
  column : Nat
  deriving DecidableEq

/-- The wording of an error. -/
def ReadError.message (e : ReadError) : String :=
  s!"{e.cause.message} on line {e.line} column {e.column}"

/-- The error of a fault in the text `cs`. -/
def ReadError.ofFault (cs : List Char) (f : Fault) : ReadError :=
  let before := cs.take (cs.length - f.rest.length)
  ⟨f.cause, before.count '\n' + 1, (before.reverse.takeWhile (· != '\n')).length + 1⟩

/-- The value of hexadecimal digits. -/
def ofHex (digits : List Char) : Nat :=
  digits.foldl (fun n c => 16 * n + (Json.hexDigit? c).getD 0) 0

/-- The value of a number's text. One that fits neither an integer nor a float stays text. -/
def numberValue (text : String) : Json :=
  let chars := text.toList
  let negative := chars.head? == some '-'
  let unsigned := if negative || chars.head? == some '+' then chars.drop 1 else chars
  let asText := Json.string text
  let decimal :=
    match Json.readNumber negative unsigned with
    | .ok (value, []) => value
    | _ => asText
  match unsigned with
  | '0' :: x :: ds =>
    if x = 'x' ∨ x = 'X' then
      let n := ofHex ds
      if n < Word.half then .int (if negative then -n else n) else asText
    else decimal
  | _ => decimal

/-- What an unexpected token is called where a value should be. -/
def Token.notValue? : Token → Option Cause
  | .closeBrace => some .unexpectedCloseBrace
  | .closeBracket => some .unexpectedCloseBracket
  | .comma => some .unexpectedComma
  | .colon => some .unexpectedColon
  | .word _ => some .unexpectedWord
  | _ => none

/-- The key that a token writes. -/
def Token.key? : Token → Option String
  | .string s | .word s | .number s => some s
  | _ => none

/-- The tokens behind a comma at the front. -/
def dropComma : List Placed → List Placed
  | ⟨.comma, _⟩ :: rest => rest
  | rest => rest

/-- The fault where the tokens end: what broke them off, or else `cause` at `rest`. -/
def ending {α : Type} (broken : Option Fault) (cause : Cause) (rest : List Char) :
    Except Fault α :=
  .error (broken.getD ⟨cause, rest⟩)

mutual

/-- Reads a value; `broken` is the fault that ends the tokens, if one does. -/
def readValue (fuel : Nat) (broken : Option Fault) (tokens : List Placed) :
    Except Fault (Json × List Placed) :=
  match fuel, tokens with
  | 0, _ | _, [] => ending broken .expectedValue []
  | fuel + 1, ⟨token, start⟩ :: rest =>
    match token with
    | .openBrace => do
      let (members, rest) ← readMembers fuel broken start [] rest
      return (Json.ofMembers members, rest)
    | .openBracket => do
      let (items, rest) ← readItems fuel broken start [] rest
      return (.array items, rest)
    | .string s => .ok (.string s, rest)
    | .number text => .ok (numberValue text, rest)
    | .bool b => .ok (.bool b, rest)
    | .null => .ok (.null, rest)
    | token => fault (token.notValue?.getD .unexpectedToken) start

/-- Reads the items of the array that opens at `start`; `acc` holds those so far, last first. -/
def readItems (fuel : Nat) (broken : Option Fault) (start : List Char) (acc : List Json)
    (tokens : List Placed) : Except Fault (List Json × List Placed) :=
  match fuel, tokens with
  | 0, _ | _, [] => ending broken .unterminatedArray start
  | _, ⟨.closeBracket, _⟩ :: rest => .ok (acc.reverse, rest)
  | fuel + 1, tokens => do
    let (item, rest) ← readValue fuel broken tokens
    readItems fuel broken start (item :: acc) (dropComma rest)

/-- Reads the members of the object that opens at `start`; `acc` holds those so far, last
first. -/
def readMembers (fuel : Nat) (broken : Option Fault) (start : List Char)
    (acc : List (String × Json)) (tokens : List Placed) :
    Except Fault (List (String × Json) × List Placed) :=
  match fuel, tokens with
  | 0, _ | _, [] => ending broken .unterminatedObject start
  | _, ⟨.closeBrace, _⟩ :: rest => .ok (acc.reverse, rest)
  | fuel + 1, ⟨token, place⟩ :: rest =>
    match token.key?, rest with
    | none, _ => fault .unexpectedInObject place
    | some _, [] => ending broken .expectedColon []
    | some key, ⟨.colon, _⟩ :: rest => do
      let (value, rest) ← readValue fuel broken rest
      readMembers fuel broken start ((key, value) :: acc) (dropComma rest)
    | some _, ⟨_, place⟩ :: _ => fault .expectedColon place

end

/-- Reads a text. There is no value if there is no token. -/
def read (text : String) : Except ReadError (Option Json) :=
  let cs := text.toList
  let tokens := scan (cs.length + 1) cs
  let broken := tokens.fault?
  let result : Except Fault (Option Json) :=
    match tokens.placed, broken with
    | [], some f => .error f
    | [], none => .ok none
    | placed, broken => do
      let (value, rest) ← readValue (2 * placed.length + 2) broken placed
      match rest, broken with
      | ⟨_, place⟩ :: _, _ => fault .severalValues place
      | [], some f => .error f
      | [], none => return some value
  match result with
  | .ok value => .ok value
  | .error f => .error (.ofFault cs f)

end Emend.Jsonc

import Emend.Text.Hidden

/-!
# Quoted text

A text between double quotes, as messages show it: quotes and backslashes are escaped, the common
controls have their letter, and any other hidden character is written by its number.
-/

namespace Emend.Text

/-- One character of a quotation. -/
def quoteChar (c : Char) : String :=
  match c with
  | '"' => "\\\""
  | '\\' => "\\\\"
  | '\n' => "\\n"
  | '\r' => "\\r"
  | '\t' => "\\t"
  | '\x00' => "\\0"
  | c =>
    if isHidden c then "\\u\x7b" ++ String.ofList (Nat.toDigits 16 c.toNat) ++ "\x7d"
    else c.toString

/-- `s` between double quotes. -/
def quote (s : String) : String :=
  "\"" ++ String.join (s.toList.map quoteChar) ++ "\""

end Emend.Text

import Emend.Json.Value
import Emend.Json.Render
import Emend.Word
import Emend.Text.Quoted

/-!
# Values from JSON

`ToJson` writes a value as JSON and `FromJson` reads it back or says why it cannot. A structure is
an object of its fields, or an array of them in their order; an enumeration is the name of a
constructor, or an object with that name as only key and `null` beside it.

## Algorithm

The members of an object are visited in the order in which it holds them and the first one that
cannot be read is the error; keys that are no fields are passed over. Only when all members have
been read is a field that must be there missed, in the order of the fields (`checkMembers`, then
`required` and `optional`). The items of an array are read one by one (`Items`).
-/

namespace Emend

/-- What was found where something else was expected. -/
inductive Found where
  | null
  | bool (b : Bool)
  | int (n : Int)
  | float (x : Binary64)
  | string (s : String)
  | sequence
  | map
  deriving DecidableEq

/-- The wording of what was found. -/
def Found.message : Found → String
  | null => "null"
  | bool b => if b then "boolean `true`" else "boolean `false`"
  | int n => s!"integer `{n}`"
  | float x => s!"floating point `{x.render}`"
  | string s => "string " ++ Text.quote s
  | sequence => "sequence"
  | map => "map"

/-- The kind of a JSON value, as an error shows it. -/
def Found.ofJson : Json → Found
  | .null => null
  | .bool b => bool b
  | .int n => int n
  | .float x => float x
  | .string s => string s
  | .array _ => sequence
  | .object _ => map

/-- Why a JSON value cannot be read. -/
inductive DecodeError where
  | invalidType (found : Found) (expected : String)
  | invalidValue (found : Found) (expected : String)
  | invalidLength (length : Nat) (expected : String)
  | unknownVariant (name : String) (variants : List String)
  | missingField (name : String)
  deriving DecidableEq

/-- The names that an enumeration admits. -/
def DecodeError.choice (variants : List String) : String :=
  let ticked := variants.map fun v => s!"`{v}`"
  match ticked with
  | [] => "there are no variants"
  | [a] => s!"expected {a}"
  | [a, b] => s!"expected {a} or {b}"
  | names => "expected one of " ++ ", ".intercalate names

/-- The wording of an error. -/
def DecodeError.message : DecodeError → String
  | invalidType found expected => s!"invalid type: {found.message}, expected {expected}"
  | invalidValue found expected => s!"invalid value: {found.message}, expected {expected}"
  | invalidLength length expected => s!"invalid length {length}, expected {expected}"
  | unknownVariant name variants => s!"unknown variant `{name}`, {choice variants}"
  | missingField name => s!"missing field `{name}`"

/-- Types with a JSON form. -/
class ToJson (α : Type) where
  toJson : α → Json

/-- Types that are read from JSON. -/
class FromJson (α : Type) where
  fromJson : Json → Except DecodeError α
  /-- The value of a field that is not there, if it may be missing. -/
  absent? : Option α := none

export ToJson (toJson)
export FromJson (fromJson)

/-- The error for a value of the wrong kind. -/
def wrongType {α : Type} (value : Json) (expected : String) : Except DecodeError α :=
  .error (.invalidType (.ofJson value) expected)

instance : ToJson Json := ⟨id⟩

instance : ToJson Bool := ⟨.bool⟩

instance : ToJson Nat := ⟨fun n => .int n⟩

instance : ToJson Int := ⟨.int⟩

instance : ToJson String := ⟨.string⟩

instance {α : Type} [ToJson α] : ToJson (List α) := ⟨fun xs => .array (xs.map toJson)⟩

instance {α : Type} [ToJson α] : ToJson (Option α) where
  toJson
    | none => .null
    | some a => toJson a

/-- A word: an integer that is neither negative nor too large. -/
instance : FromJson Nat where
  fromJson
    | .int n =>
      if 0 ≤ n ∧ n < Word.bound then .ok n.toNat
      else .error (.invalidValue (.int n) "usize")
    | value => wrongType value "usize"

instance : FromJson String where
  fromJson
    | .string s => .ok s
    | value => wrongType value "a string"

/-- Reads the items of an array in order. -/
def decodeItems {α : Type} [FromJson α] : List Json → Except DecodeError (List α)
  | [] => .ok []
  | item :: rest => do
    let a ← fromJson item
    let as ← decodeItems rest
    return a :: as

instance {α : Type} [FromJson α] : FromJson (List α) where
  fromJson
    | .array items => decodeItems items
    | value => wrongType value "a sequence"

instance {α : Type} [FromJson α] : FromJson (Option α) where
  fromJson
    | .null => .ok none
    | value => do return some (← fromJson value)
  absent? := some none

/-! ## Structures -/

/-- Reading a member of an object for its error only. -/
abbrev Check := Json → Except DecodeError Unit

/-- The check of a field of type `α`. -/
def Check.of (α : Type) [FromJson α] : Check := fun value => do
  let _ ← (fromJson value : Except DecodeError α)

/-- Checks the members that are fields, in the order in which the object holds them. -/
def checkMembers (fields : List (String × Check)) :
    List (String × Json) → Except DecodeError Unit
  | [] => .ok ()
  | (key, value) :: rest => do
    match fields.lookup key with
    | some check => check value
    | none => pure ()
    checkMembers fields rest

/-- The field `name`, which is an error if it is not there and may not be missing. -/
def required {α : Type} [FromJson α] (name : String) (members : List (String × Json)) :
    Except DecodeError α :=
  match members.lookup name, FromJson.absent? (α := α) with
  | some value, _ => fromJson value
  | none, some a => .ok a
  | none, none => .error (.missingField name)

/-- The field `name`, or a value in its place. -/
def optional {α : Type} [FromJson α] (name : String) (default : α)
    (members : List (String × Json)) : Except DecodeError α :=
  match members.lookup name with
  | some value => fromJson value
  | none => .ok default

/-- The items of an array that are left, and how many fields were read before them. -/
abbrev Items := StateT (Nat × List Json) (Except DecodeError)

/-- The next item, which is an error if there is none. -/
def Items.required {α : Type} [FromJson α] (expected : String) : Items α := do
  match ← get with
  | (n, []) => throw (.invalidLength n expected)
  | (n, item :: rest) =>
    set (n + 1, rest)
    fromJson item

/-- The next item, or a value in its place. -/
def Items.optional {α : Type} [FromJson α] (default : α) : Items α := do
  match ← get with
  | (n, []) =>
    set (n + 1, ([] : List Json))
    return default
  | (n, item :: rest) =>
    set (n + 1, rest)
    fromJson item

/-- Reads a structure from the items of an array, which must all be used. -/
def Items.run {α : Type} (reader : Items α) (items : List Json) : Except DecodeError α := do
  let (a, _, rest) ← StateT.run reader (0, items)
  if rest.isEmpty then return a
  else throw (.invalidLength items.length "fewer elements in array")

/-- Reads a structure from an object or an array. -/
def decodeStruct {α : Type} (name : String)
    (ofMembers : List (String × Json) → Except DecodeError α) (ofItems : Items α) :
    Json → Except DecodeError α
  | .object members => ofMembers members
  | .array items => ofItems.run items
  | value => wrongType value s!"struct {name}"

/-! ## Enumerations -/

/-- The constructor called `name`. -/
def decodeName {α : Type} (variants : List (String × α)) (name : String) :
    Except DecodeError α :=
  match variants.lookup name with
  | some a => .ok a
  | none => .error (.unknownVariant name (variants.map Prod.fst))

/-- Reads an enumeration whose constructors have no arguments. -/
def decodeEnum {α : Type} (variants : List (String × α)) : Json → Except DecodeError α
  | .string name => decodeName variants name
  | .object [(name, content)] => do
    let a ← decodeName variants name
    match content with
    | .null => return a
    | content => wrongType content "unit"
  | .object _ => .error (.invalidValue .map "map with a single key")
  | value => wrongType value "string or map"

end Emend

import StepScript.Number.Display
import StepScript.Text.Basic

/-!
# JSON values and their text

Integers and doubles are kept apart, as the text keeps them apart.  The fields of an object stay in
the order in which they were first given.
-/

namespace StepScript

inductive Json where
  | null
  | boolean (value : Bool)
  | integer (value : Int)
  | double (value : Float)
  | text (value : Text)
  | array (items : List Json)
  | object (fields : List (Text × Json))
  deriving Inhabited

namespace Json

def string (value : String) : Json :=
  .text value.toList

/-- An object whose field names are given as strings. -/
def record (fields : List (String × Json)) : Json :=
  .object (fields.map fun (name, value) => (name.toList, value))

/-- The value under `none` is null. -/
def ofOption {α : Type} (encode : α → Json) : Option α → Json
  | none => .null
  | some value => encode value

def natural (value : Nat) : Json :=
  .integer value

/-- The value of a field of an object. -/
def field? (name : String) : Json → Option Json
  | .object fields => fields.lookup name.toList
  | _ => none

/-- Replaces the value of a field in its place, or adds the field at the end. -/
def setField (name : Text) (value : Json) : List (Text × Json) → List (Text × Json)
  | [] => [(name, value)]
  | (other, old) :: rest =>
    if other = name then (other, value) :: rest else (other, old) :: setField name value rest

/-- Whether a value counts as nothing: null, false, zero, or empty. -/
def isVoid : Json → Bool
  | .null => true
  | .boolean value => !value
  | .integer value => value == 0
  | .double value => value == 0
  | .text value => value.isEmpty
  | .array items => items.isEmpty
  | .object fields => fields.isEmpty

/-- Integers may have this many digits, written or read. -/
def digitLimit : Nat :=
  4300

/-- The letter that stands behind a backslash for a character. -/
def escapeLetter? : Char → Option Char
  | '"' => some '"'
  | '\\' => some '\\'
  | '\n' => some 'n'
  | '\r' => some 'r'
  | '\t' => some 't'
  | '\x0c' => some 'f'
  | '\x08' => some 'b'
  | _ => none

/-- The code units of a character: two halves, if its code does not fit into one unit. -/
def codeUnits (char : Char) : List Nat :=
  if char.toNat < 0x10000 then [char.toNat]
  else
    let beyond := char.toNat - 0x10000
    [0xD800 + beyond / 0x400, 0xDC00 + beyond % 0x400]

/-- A code unit, escaped by its four hexadecimal digits. -/
def writeUnit (unit : Nat) : Text :=
  ['\\', 'u', Nat.digitChar (unit / 4096), Nat.digitChar (unit / 256 % 16),
    Nat.digitChar (unit / 16 % 16), Nat.digitChar (unit % 16)]

/-- One character of a written text, in printable ASCII characters. -/
def writeChar (char : Char) : Text :=
  match escapeLetter? char with
  | some letter => ['\\', letter]
  | none =>
    if 32 ≤ char.toNat ∧ char.toNat < 127 then [char] else (codeUnits char).flatMap writeUnit

def writeText (value : Text) : Text :=
  '"' :: value.flatMap writeChar ++ ['"']

/-- A double by its shortest digits, so that it is read back as a double. -/
def writeDouble (value : Float) : Text :=
  match Dyadic.ofFloat? value with
  | none => Number.display value
  | some fraction =>
    if fraction.mantissa = 0 then
      if fraction.negative then "-0.0".toList else "0.0".toList
    else Number.showShortest fraction

mutual

/-- The text of a value, on one line. -/
def write : Json → Text
  | .null => "null".toList
  | .boolean true => "true".toList
  | .boolean false => "false".toList
  | .integer value => Number.showInteger value
  | .double value => writeDouble value
  | .text value => writeText value
  | .array items => '[' :: writeItems items ++ [']']
  | .object fields => '\x7b' :: writeFields fields ++ ['\x7d']

/-- The items of an array, with commas between them. -/
def writeItems : List Json → Text
  | [] => []
  | [item] => write item
  | item :: next :: rest => write item ++ ',' :: ' ' :: writeItems (next :: rest)

/-- The fields of an object, with commas between them. -/
def writeFields : List (Text × Json) → Text
  | [] => []
  | [(name, value)] => writeText name ++ ':' :: ' ' :: write value
  | (name, value) :: next :: rest =>
    writeText name ++ ':' :: ' ' :: write value ++ ',' :: ' ' :: writeFields (next :: rest)

end

mutual

/-- Whether a value can be written: none of its integers has too many digits. -/
def isWritable : Json → Bool
  | .integer value => (Number.digitsOf value.natAbs).length ≤ digitLimit
  | .array items => itemsWritable items
  | .object fields => fieldsWritable fields
  | _ => true

/-- Whether all items of an array can be written. -/
def itemsWritable : List Json → Bool
  | [] => true
  | item :: rest => isWritable item && itemsWritable rest

/-- Whether the values of all fields can be written. -/
def fieldsWritable : List (Text × Json) → Bool
  | [] => true
  | (_, value) :: rest => isWritable value && fieldsWritable rest

end

end Json

end StepScript

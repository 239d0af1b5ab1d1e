import StepScript.Json.Basic
import StepScript.Fault
import StepScript.Number.Arithmetic

/-!
# Values

A value is a number, a truth value or an array.  Scripts only build flat arrays of numbers, but an
environment given from outside may hold arrays of anything.
-/

namespace StepScript

/-- What a variable can hold. -/
inductive Value where
  | number (value : Float)
  | boolean (value : Bool)
  | array (cells : List Value)
  deriving Inhabited

namespace Value

def kind : Value → String
  | .number _ => "number"
  | .boolean _ => "boolean"
  | .array _ => "array"

mutual

def display : Value → Text
  | .number value => Number.display value
  | .boolean true => "true".toList
  | .boolean false => "false".toList
  | .array cells => '[' :: displayCells cells ++ [']']

/-- The cells of an array, with commas between them. -/
def displayCells : List Value → Text
  | [] => []
  | [cell] => display cell
  | cell :: next :: rest => display cell ++ ',' :: ' ' :: displayCells (next :: rest)

end

/-- A number as plain JSON: integers without a point, and the values that JSON lacks as texts. -/
def numberJson (value : Float) : Json :=
  match Dyadic.ofFloat? value with
  | none => .text (Number.display value)
  | some fraction => if fraction.isInteger then .integer fraction.truncate else .double value

mutual

def toJson : Value → Json
  | .number value => numberJson value
  | .boolean value => .boolean value
  | .array cells => .array (cellsJson cells)

def cellsJson : List Value → List Json
  | [] => []
  | cell :: rest => toJson cell :: cellsJson rest

end

/-- Everything holds but false, zero and NaN. -/
def truthy : Value → Bool
  | .number value => !(value == 0 || value.isNaN)
  | .boolean value => value
  | .array _ => true

/-- The number that a value counts as in arithmetic.  `part` is the text that gave the value. -/
def toNumber (part : Option Text) : Value → Except Fault Float
  | .number value => .ok value
  | .boolean value => .ok (if value then 1 else 0)
  | .array cells => .error (.arrayAsNumber (part.getD (display (.array cells))) part)

def isArray : Value → Bool
  | .array _ => true
  | _ => false

def cells? : Value → Option (List Value)
  | .array cells => some cells
  | _ => none

/-- The position that an index denotes in an array of a given length.  `part` is the text of the
whole access. -/
def position (length : Nat) (part : Text) : Value → Except Fault Nat
  | .number index =>
    match (Number.natural? index).filter (· < length) with
    | some place => .ok place
    | none => .error (.indexOutOfBounds index part length)
  | _ => .error (.invalidIndex part)

end Value

end StepScript

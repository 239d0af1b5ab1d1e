import StepScript.Json.Reader
import StepScript.Statement.Basic

/-!
# Literals

A declared value that is written as a number or as a flat array of numbers is read directly.  An
array literal is JSON text, so its integers can be too large to become doubles.
-/

namespace StepScript

/-- Why a literal or a statement gives no value. -/
inductive Failure where
  | fault (cause : Fault)
  | breakdown (cause : Breakdown)
  deriving DecidableEq

namespace Literal

def isNumber : Json → Bool
  | .integer _ | .double _ => true
  | _ => false

def cells : List Json → Except Failure (List Value)
  | [] => .ok []
  | .integer value :: rest =>
    match Number.ofInteger? value with
    | some number => (cells rest).map (.number number :: ·)
    | none => .error (.breakdown .integerTooLarge)
  | .double value :: rest => (cells rest).map (.number value :: ·)
  | _ :: rest => cells rest

/-- The value of a text in square brackets. -/
def readArray (text : Text) : Except Failure Value :=
  match Json.read? text with
  | some (.array items) =>
    if items.all isNumber then (cells items).map .array
    else .error (.fault (.nonNumericArray text))
  | some _ => .error (.fault (.nonNumericArray text))
  | none => .error (.fault (.malformedArray text))

/-- The value of a literal; none if the text is no literal. -/
def read? (expression : Text) : Except Failure (Option Value) :=
  let text := stripStatement expression
  match Numeral.read? text with
  | some numeral => .ok (some (.number numeral.toFloat))
  | none =>
    if text.head? = some '[' ∧ text.getLast? = some ']' then (readArray text).map some
    else .ok none

end Literal

end StepScript

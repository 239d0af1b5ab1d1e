import StepScript.Number.Display
import StepScript.Text.Quoted

/-!
# Faults

A fault is a cause that ends a run as failed.  Each cause keeps the text it is about, and its
wording is derived from it in one place.  A breakdown is different: it is no fault of the run, and
it ends the call that met it without an outcome.
-/

namespace StepScript

def Text.string (text : Text) : String :=
  String.ofList text

/-- Why a run fails. -/
inductive Fault where
  | emptyExpression (expression : Text)
  | unreadable (expression : Text) (column : Nat)
  | nulCharacter (expression : Text)
  | nestedTooDeeply (expression : Text)
  | functionCall (expression : Text)
  | unsupportedElement (element : String) (expression : Text)
  | unsupportedExpression (construct : String) (expression : Text)
  | integerTooLarge (expression : Text)
  | visitedTooDeeply (expression : Text)
  | unsupportedOperator (part : Text)
  | unsupportedComparison (part : Text)
  | chainedComparison (part : Text)
  | unsupportedLiteral (part : Text)
  | undefinedVariable (name : Text)
  | nonNumericElement (part : Text)
  | slice (part : Text)
  | indexedNonArray (target part : Text)
  | unsupportedProperty (part : Text)
  | noLength (target part : Text)
  | arrayAsNumber (shown : Text) (part : Option Text)
  | arraysCompared (part : Option Text)
  | invalidIndex (part : Text)
  | indexOutOfBounds (index : Float) (part : Text) (length : Nat)
  | malformedArray (literal : Text)
  | nonNumericArray (literal : Text)
  | nonNumericAssignment (expression : Text)
  | unclosedBlock (header : Text)
  | constReassigned (name : Text)
  | stepLimit (limit : Int)
  | loopLimit (limit : Int)
  deriving DecidableEq

/-- The kind of a fault, as reports name it. -/
inductive FaultCode where
  | runtime
  | stepLimit
  | loopLimit
  | rejected
  deriving DecidableEq, Repr

def FaultCode.word : FaultCode → String
  | .runtime => "RUNTIME_ERROR"
  | .stepLimit => "STEP_LIMIT"
  | .loopLimit => "LOOP_LIMIT"
  | .rejected => "SYNTAX_REJECTED"

namespace Fault

/-- Limits have kinds of their own; every other fault happens while the script runs. -/
def code : Fault → FaultCode
  | .stepLimit _ => .stepLimit
  | .loopLimit _ => .loopLimit
  | _ => .runtime

def message : Fault → String
  | .emptyExpression _ => "Empty expression"
  | .unreadable expression _ => s!"Syntax error in expression '{expression.string}'"
  | .nulCharacter _ => "Cannot parse expression: source code string cannot contain null bytes"
  | .nestedTooDeeply _ => "Expression is too deeply nested to evaluate"
  | .functionCall expression => s!"Function calls are not supported: '{expression.string}'"
  | .unsupportedElement element _ => s!"Unsupported expression element: {element}"
  | .unsupportedExpression construct _ => s!"Unsupported expression: {construct}"
  | .integerTooLarge expression =>
    s!"Cannot evaluate '{expression.string}': int too large to convert to float"
  | .visitedTooDeeply expression =>
    s!"Cannot evaluate '{expression.string}': maximum recursion depth exceeded"
  | .unsupportedOperator part => s!"Unsupported operator in '{part.string}'"
  | .unsupportedComparison part => s!"Unsupported comparison in '{part.string}'"
  | .chainedComparison _ => "Chained comparisons not supported"
  | .unsupportedLiteral part => s!"Unsupported literal {part.string}"
  | .undefinedVariable name => s!"Undefined variable '{name.string}'"
  | .nonNumericElement _ => "Array literals may only contain numbers"
  | .slice part => s!"Slices are not supported: '{part.string}'"
  | .indexedNonArray target part =>
    s!"Cannot index non-array '{target.string}' in '{part.string}'"
  | .unsupportedProperty part => s!"Unsupported property in '{part.string}'"
  | .noLength target _ => s!"'{target.string}' has no length"
  | .arrayAsNumber shown _ => s!"Cannot use array '{shown.string}' as a number"
  | .arraysCompared _ => "Arrays cannot be compared"
  | .invalidIndex part => s!"Invalid index in '{part.string}'"
  | .indexOutOfBounds index part length =>
    let shown := Text.string (Number.display index)
    s!"Index {shown} out of bounds in '{part.string}' (length {length})"
  | .malformedArray literal => s!"Invalid array literal {literal.string}"
  | .nonNumericArray literal => s!"Array literals may only contain numbers: {literal.string}"
  | .nonNumericAssignment expression => s!"Array elements must be numbers: '{expression.string}'"
  | .unclosedBlock _ => "Missing closing '\x7d' for loop"
  | .constReassigned name => s!"Cannot reassign const '{name.string}'"
  | .stepLimit limit => s!"Step limit of {limit} exceeded"
  | .loopLimit limit => s!"Loop iterations limited to {limit}"

/-- As much of an expression as a report quotes when the expression could not be read at all. -/
def excerpt (expression : Text) : Text :=
  expression.take 80

/-- The text that a fault is about. -/
def about? : Fault → Option Text
  | .emptyExpression expression | .unreadable expression _ | .functionCall expression
  | .unsupportedElement _ expression | .unsupportedExpression _ expression
  | .integerTooLarge expression | .visitedTooDeeply expression
  | .nonNumericAssignment expression => some expression
  | .nulCharacter expression | .nestedTooDeeply expression => some (excerpt expression)
  | .unsupportedOperator part | .unsupportedComparison part | .chainedComparison part
  | .unsupportedLiteral part | .nonNumericElement part | .slice part | .indexedNonArray _ part
  | .unsupportedProperty part | .noLength _ part | .invalidIndex part
  | .indexOutOfBounds _ part _ => some part
  | .arrayAsNumber _ part | .arraysCompared part => part
  | .undefinedVariable name | .constReassigned name => some name
  | .malformedArray literal | .nonNumericArray literal => some literal
  | .unclosedBlock header => some header
  | .stepLimit _ | .loopLimit _ => none

/-- The column at which an expression cannot be read, counted from one. -/
def column? : Fault → Option Nat
  | .unreadable _ column => some column
  | _ => none

end Fault

/-- Why a call ends without an outcome: an integer beyond the doubles in an array literal, a loop
step behind an information separator, which the numeral reader does not skip, or an array as the
speed of a run. -/
inductive Breakdown where
  | integerTooLarge
  | unreadableStep (step : Text)
  | speedIsArray
  deriving DecidableEq

def Breakdown.message : Breakdown → String
  | .integerTooLarge => "int too large to convert to float"
  | .unreadableStep step => s!"could not convert string to float: {Text.string (Text.quoted step)}"
  | .speedIsArray => "float() argument must be a string or a real number, not 'list'"

end StepScript

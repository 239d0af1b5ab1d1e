import StepScript.Expression.Evaluate
import StepScript.Literal
import StepScript.Run.Report

/-!
# The machine

The state that a script works on, and what single statements do to it.  A statement that fails
leaves the machine as it was when the failing operation began.
-/

namespace StepScript

/-- How far a run may go. -/
structure Limits where
  maxSteps : Int
  maxLoop : Int
  deriving DecidableEq, Repr

def Limits.standard : Limits :=
  ⟨10000, 1000⟩

/-- A loop that is under way.  `header` is the index of its line, and `iterations` is how many
rounds have begun. -/
structure Frame where
  counter : Text
  start : Float
  tested : Text
  comparator : Comparator
  bound : Text
  step : Float
  body : List Line
  header : Nat
  endIndex : Nat
  iterations : Nat
  deriving DecidableEq

/-- The state of a run.  `cursor` is the index of the line at which it stands, `entries` the log
with the newest entry first, `highlight` the cell of the shown array that the loop counter
addresses, `arrayName` the variable to which an array was written last, and `taken` the number of
snapshots so far.  Each constant stands with the line that declares it. -/
structure Machine where
  environment : Environment
  cursor : Option Nat
  entries : List LogEntry
  frame : Option Frame
  highlight : Option Nat
  arrayName : Option Text
  constants : List (Text × Nat)
  steps : Nat
  taken : Nat

namespace Machine

/-- A machine before a run. -/
def initial : Machine :=
  ⟨[], none, [], none, none, none, [], 0, 0⟩

/-- The log, oldest entry first. -/
def log (machine : Machine) : List LogEntry :=
  machine.entries.reverse

/-- Adds an entry to the log. -/
def record (entry : LogEntry) (machine : Machine) : Machine :=
  { machine with entries := entry :: machine.entries }

/-- Moves to a line, logs it and counts a step. -/
def visit (inBody : Bool) (line : Line) (machine : Machine) : Machine :=
  let text := Text.trim line.text
  let entry := if inBody then LogEntry.body text else LogEntry.line line.index text
  { machine with
    cursor := some line.index
    entries := entry :: machine.entries
    steps := machine.steps + 1 }

def constantLine? (name : Text) (machine : Machine) : Option Nat :=
  machine.constants.lookup name

/-- Gives a variable a value.  A constant may only be bound again by the line that declares it. -/
def bind (name : Text) (value : Value) (line : Option Nat) (machine : Machine) :
    Except Fault Machine :=
  if (machine.constantLine? name).isSome && machine.constantLine? name != line then
    .error (.constReassigned name)
  else
    .ok
      { machine with
        environment := Environment.bind name value machine.environment
        arrayName := if value.isArray then some name else machine.arrayName }

/-- Notes the line of a constant that was not known before. -/
def noteConstant (name : Text) (machine : Machine) : Machine :=
  match machine.constantLine? name, machine.cursor with
  | none, some line => { machine with constants := machine.constants ++ [(name, line)] }
  | _, _ => machine

/-- The value of a declaration: a literal, or the value of an expression. -/
def declaredValue (expression : Text) (environment : Environment) : Except Failure Value :=
  match Literal.read? expression with
  | .error failure => .error failure
  | .ok (some value) => .ok value
  | .ok none => (evaluateText expression environment).mapError .fault

/-- Declares a variable. -/
def declare (name expression : Text) (keyword : Keyword) (machine : Machine) :
    Except Failure Machine :=
  match declaredValue expression machine.environment with
  | .error failure => .error failure
  | .ok value =>
    let noted := if keyword = .constWord then machine.noteConstant name else machine
    (noted.bind name value noted.cursor).mapError .fault

/-- The array with one cell replaced. -/
def updatedArray (name expression index : Text) (value : Value) (environment : Environment) :
    Except Fault Value :=
  let part := name ++ '[' :: index ++ [']']
  match (Environment.find? name environment).bind Value.cells? with
  | none => .error (.indexedNonArray name part)
  | some cells =>
    match evaluateText index environment with
    | .error fault => .error fault
    | .ok indexValue =>
      match indexValue.position cells.length part with
      | .error fault => .error fault
      | .ok place =>
        match value with
        | .number _ => .ok (.array (cells.set place value))
        | _ => .error (.nonNumericAssignment expression)

def assign (name expression : Text) (index : Option Text) (machine : Machine) :
    Except Fault Machine :=
  match evaluateText expression machine.environment with
  | .error fault => .error fault
  | .ok value =>
    match index with
    | none => machine.bind name value none
    | some index =>
      match updatedArray name expression index value machine.environment with
      | .error fault => .error fault
      | .ok updated => machine.bind name updated none

/-- The array that is shown: the one last written, if its variable still holds an array. -/
def shownArray? (machine : Machine) : Option (Text × List Value) := do
  let name ← machine.arrayName
  let value ← Environment.find? name machine.environment
  let cells ← value.cells?
  return (name, cells)

/-- The cell that a loop value addresses.  Without a shown array any natural number is one. -/
def highlightFor (value : Float) (machine : Machine) : Option Nat :=
  match Number.natural? value with
  | none => none
  | some place =>
    match machine.shownArray? with
    | some (_, cells) => if place < cells.length then some place else none
    | none => some place

/-- Prepares a loop whose block has been found: its frame and its first value. -/
def enterLoop (header : LoopHeader) (line : Nat) (block : Block) (machine : Machine) :
    Except Fault (Machine × Frame × Float) :=
  match evaluateText header.start machine.environment with
  | .error fault => .error fault
  | .ok value =>
    match value.toNumber (some header.start) with
    | .error fault => .error fault
    | .ok start =>
      let frame : Frame :=
        { counter := header.counter
          start
          tested := header.tested
          comparator := header.comparator
          bound := header.bound
          step := header.step
          body := block.body
          header := line
          endIndex := block.endIndex
          iterations := 0 }
      .ok ({ machine with frame := some frame }, frame, start)

/-- Whether a loop goes on with a value of its counter. -/
def goesOn (frame : Frame) (value : Float) (environment : Environment) : Except Fault Bool :=
  let scope := Environment.bind frame.counter (.number value) environment
  match Environment.find? frame.tested scope with
  | none => .error (.undefinedVariable frame.tested)
  | some tested =>
    match evaluateText frame.bound scope with
    | .error fault => .error fault
    | .ok bound =>
      let part := frame.tested ++ ' ' :: frame.comparator.symbol ++ ' ' :: frame.bound
      frame.comparator.compare tested bound (some part)

/-- Binds the counter at the start of a round. -/
def beginRound (frame : Frame) (value : Float) (machine : Machine) : Except Fault Machine :=
  match machine.bind frame.counter (.number value) none with
  | .error fault => .error fault
  | .ok bound =>
    .ok { bound with highlight := bound.highlightFor value, cursor := some frame.header }

/-- Changes the counter at the end of a round, and returns its new value. -/
def endRound (frame : Frame) (machine : Machine) : Except Fault (Machine × Float) :=
  match Environment.find? frame.counter machine.environment with
  | none => .error (.undefinedVariable frame.counter)
  | some value =>
    match value.toNumber (some frame.counter) with
    | .error fault => .error fault
    | .ok number =>
      let next := number + frame.step
      match machine.bind frame.counter (.number next) none with
      | .error fault => .error fault
      | .ok bound => .ok ({ bound with cursor := some frame.header }, next)

def leaveLoop (machine : Machine) : Machine :=
  { machine with frame := none, highlight := none }

end Machine

end StepScript

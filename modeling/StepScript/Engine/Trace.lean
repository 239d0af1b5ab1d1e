import StepScript.Engine.Run

/-!
# Traces

A trace tells the course of a run in plain lines: how it began, each change, and how it ended.
-/

namespace StepScript

inductive TraceEvent where
  | rejected (construct : String)
  | started (lines : Nat) (delay : Float)
  | changed (shown : Snapshot)
  | completed (steps : Nat)
  | failed (line : Option Nat) (message : String)
  | cancelled (snapshots : Nat)

namespace TraceEvent

/-- The level of an event.  Single changes are details. -/
def level : TraceEvent → String
  | .changed _ => "DEBUG"
  | _ => "INFO"

/-- A variable with its value. -/
def binding (name : Text) (value : Value) : Text :=
  name ++ '=' :: value.display

/-- A snapshot on one line. -/
def summary (shown : Snapshot) : String :=
  let line := match shown.line with
    | some index => index + 1
    | none => 0
  let bindings := shown.environment.map fun (name, value) => Text.string (binding name value)
  let values := ", ".intercalate bindings
  s!"#{shown.seq} {shown.event.word} line={line} {values}"

/-- The wording of an event. -/
def message : TraceEvent → String
  | .rejected construct => s!"script rejected: {construct}"
  | .started lines delay =>
    s!"run started ({lines} lines, delay {Text.string (Number.displayFixed 3 delay)}s)"
  | .changed shown => summary shown
  | .completed steps => s!"run completed in {steps} steps"
  | .failed line message =>
    let place := match line with
      | some number => toString number
      | none => "None"
    s!"run failed at line {place}: {message}"
  | .cancelled snapshots => s!"run cancelled after {snapshots} snapshots"

def text (event : TraceEvent) : String :=
  s!"{event.level} {event.message}"

end TraceEvent

namespace Engine

/-- The last event of a run that was not rejected. -/
def endEvent (engine : Engine) (outcome : Outcome) : TraceEvent :=
  match outcome.report with
  | some report => .failed (report.place.map (·.1)) report.message
  | none =>
    if outcome.isOk then .completed engine.machine.steps else .cancelled engine.machine.taken

/-- The trace of a run that has ended on the engine. -/
def trace (engine : Engine) (script : Text) (result : RunResult) : List TraceEvent :=
  match result.outcome.report.bind (·.construct) with
  | some construct => [.rejected construct]
  | none =>
    let changes := result.snapshots.filter (·.phase == .running)
    .started (Text.lines script).length engine.delay :: changes.map .changed ++
      [engine.endEvent result.outcome]

end Engine

end StepScript

import StepScript.Run.Step

/-!
# Snapshots

What an observer sees of a run: the variables, the line, the shown array and the log, taken right
after a change or at the end of the run.  A snapshot shares nothing that a later step could change.
-/

namespace StepScript

/-- The state of a run as it is shown to observers.  Snapshots are numbered from one in each run,
lines from zero, and the log has its newest entry first. -/
structure Snapshot where
  seq : Nat
  event : Event
  line : Option Nat
  phase : Phase
  environment : Environment
  array : Option (Text × List Value)
  highlight : Option Nat
  entries : List LogEntry
  message : Option String
  report : Option Report

/-- Takes a snapshot, which counts it. -/
def Machine.snapshot (machine : Machine) (event : Event) (phase : Phase) (message : Option String)
    (report : Option Report) : Machine × Snapshot :=
  let counted := { machine with taken := machine.taken + 1 }
  (counted,
    { seq := counted.taken
      event
      line := counted.cursor
      phase
      environment := counted.environment
      array := counted.shownArray?
      highlight := counted.highlight
      entries := counted.entries
      message
      report })

/-- Variables as JSON, each with its name, value and type. -/
def Environment.toJson (environment : Environment) : Json :=
  .array (environment.map fun (name, value) =>
    .record [("name", .text name), ("value", value.toJson), ("type", .string value.kind)])

/-- An index as JSON; minus one stands for none. -/
def Json.index : Option Nat → Json
  | none => .integer (-1)
  | some index => .natural index

namespace Snapshot

/-- The log, oldest entry first. -/
def log (snapshot : Snapshot) : List LogEntry :=
  snapshot.entries.reverse

def value? (name : Text) (snapshot : Snapshot) : Option Value :=
  Environment.find? name snapshot.environment

/-- The shown array as JSON, each cell with its index. -/
def arrayJson (shown : Text × List Value) : Json :=
  .record
    [("name", .text shown.1),
      ("cells", .array (shown.2.zipIdx.map fun (value, index) =>
        .record [("index", .natural index), ("value", value.toJson)]))]

/-- A snapshot as JSON.  Of the log only the length is given, since entries are never taken back. -/
def toJson (snapshot : Snapshot) : Json :=
  .record
    [("seq", .natural snapshot.seq),
      ("event", .string snapshot.event.word),
      ("line", .index snapshot.line),
      ("status", .string snapshot.phase.word),
      ("variables", snapshot.environment.toJson),
      ("array", .ofOption arrayJson snapshot.array),
      ("highlight", .index snapshot.highlight),
      ("log_len", .natural snapshot.entries.length),
      ("message", .ofOption .string snapshot.message),
      ("error", .ofOption Report.toJson snapshot.report)]

end Snapshot

end StepScript

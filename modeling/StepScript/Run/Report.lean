import StepScript.Block
import StepScript.Dialect
import StepScript.Json.Basic

/-!
# Reports, outcomes and the log

What a run tells about itself besides its variables: the log, the report of a failure and the
outcome.
-/

namespace StepScript

/-- Where an engine stands.  Only a running one can be suspended. -/
inductive Phase where
  | idle
  | running
  | completed
  | failed
  | cancelled
  deriving DecidableEq, Repr

def Phase.word : Phase → String
  | .idle => "idle"
  | .running => "running"
  | .completed => "completed"
  | .failed => "failed"
  | .cancelled => "cancelled"

/-- What a failure report says.  The place is the line at which the run stood, counted from one,
with its trimmed text. -/
structure Report where
  code : FaultCode
  message : String
  place : Option (Nat × Text)
  expression : Option Text
  column : Option Nat
  construct : Option String
  hint : Option String
  deriving DecidableEq

namespace Report

/-- The report of a fault.  `cursor` is the index of the line at which the run stood. -/
def ofFault (lines : List Text) (cursor : Option Nat) (fault : Fault) : Report :=
  { code := fault.code
    message := fault.message
    place := cursor.bind fun index => lines[index]?.map fun line => (index + 1, Text.trim line)
    expression := fault.about?.filter (!·.isEmpty)
    column := fault.column?.filter (· != 0)
    construct := none
    hint :=
      match fault.code with
      | .stepLimit | .loopLimit => some "Check the loop condition and increment."
      | _ => none }

/-- The report of a script in a foreign dialect. -/
def ofRule (rule : Dialect.Rule) : Report :=
  { code := .rejected
    message := rule.message
    place := none
    expression := none
    column := none
    construct := some rule.construct
    hint := some s!"Use {rule.suggestion}" }

/-- A report as JSON.  Fields without a value are left out. -/
def toJson (report : Report) : Json :=
  let optional {α : Type} (name : String) (encode : α → Json) (value : Option α) :=
    (value.map fun value => (name, encode value)).toList
  .record
    ([("code", .string report.code.word), ("message", .string report.message)] ++
      optional "line" (fun place : Nat × Text => .natural place.1) report.place ++
      optional "context" (fun place => .record [("line_text", .text place.2)]) report.place ++
      optional "expression" .text report.expression ++
      optional "column" .natural report.column ++
      optional "construct" .string report.construct ++
      optional "hint" .string report.hint)

end Report

/-- How a run ended. -/
structure Outcome where
  phase : Phase
  message : String
  report : Option Report
  deriving DecidableEq

namespace Outcome

def completed : Outcome :=
  ⟨.completed, "✓ Execution completed successfully", none⟩

def cancelled : Outcome :=
  ⟨.cancelled, "Execution cancelled", none⟩

def failed (report : Report) : Outcome :=
  ⟨.failed, s!"✗ Error: {report.message}", some report⟩

def rejected (rule : Dialect.Rule) : Outcome :=
  ⟨.failed, s!"✗ {rule.message}", some (Report.ofRule rule)⟩

def isOk (outcome : Outcome) : Bool :=
  outcome.phase == .completed

def toJson (outcome : Outcome) : Json :=
  .record
    [("status", .string outcome.phase.word), ("message", .string outcome.message),
      ("error", .ofOption Report.toJson outcome.report)]

end Outcome

inductive LogEntry where
  | started
  | line (index : Nat) (text : Text)
  | body (text : Text)
  | completed
  | failed (message : String)
  deriving DecidableEq

def LogEntry.text : LogEntry → String
  | .started => "Starting execution..."
  | .line index text => s!"Line {index + 1}: {text.string}"
  | .body text => s!"  Body: {text.string}"
  | .completed => "✓ Execution completed!"
  | .failed message => message

end StepScript

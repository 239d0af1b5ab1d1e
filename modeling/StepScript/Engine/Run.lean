import StepScript.Engine.Stream

/-!
# Whole runs

A run asks a stream for one snapshot after the other until the outcome is there.  An observer sees
each snapshot as it is taken, and can ask the engine to cancel.
-/

namespace StepScript

/-- What a run leaves behind. -/
structure RunResult where
  outcome : Outcome
  snapshots : List Snapshot
  log : List LogEntry

namespace RunResult

/-- The last snapshot. -/
def final? (result : RunResult) : Option Snapshot :=
  result.snapshots.getLast?

/-- The variables at the end of the run, as the last snapshot shows them. -/
def environment (result : RunResult) : Environment :=
  match result.final? with
  | some shown => shown.environment
  | none => []

/-- The fields of a result as JSON, without the snapshots. -/
def fields (result : RunResult) : List (String × Json) :=
  [("status", .string result.outcome.phase.word),
    ("output", .string result.outcome.message),
    ("log", .array (result.log.map fun entry => .string entry.text)),
    ("variables", result.environment.toJson),
    ("errors", .ofOption Report.toJson result.outcome.report)]

end RunResult

namespace Engine

/-- Lets the observer see a snapshot.  `cancels` tells at which snapshots it cancels. -/
def observe (cancels : Snapshot → Bool) (shown : Snapshot) (engine : Engine) : Engine :=
  if cancels shown then engine.cancel else engine

theorem observe_limits (cancels : Snapshot → Bool) (shown : Snapshot) (engine : Engine) :
    (engine.observe cancels shown).limits = engine.limits := by
  unfold observe
  split <;> rfl

/-- Asks a stream to go on until it ends.  `seen` are the snapshots so far, newest first. -/
def drive (cancels : Snapshot → Bool) (engine : Engine) (stream : Stream) (seen : List Snapshot) :
    Engine × Except Interruption RunResult :=
  match _answer : engine.next stream with
  | (suspended, .snapshot shown rest) =>
    drive cancels (suspended.observe cancels shown) rest (shown :: seen)
  | (ended, .outcome outcome) => (ended, .ok ⟨outcome, seen.reverse, ended.machine.log⟩)
  | (stopped, .interrupted cause) => (stopped, .error cause)
termination_by stream.measure engine.limits
decreasing_by
  rw [observe_limits]
  exact Stream.decreases_of_next _answer

/-- Runs a script to its end. -/
def run (engine : Engine) (script : Text) (speed : Option Value) (cancels : Snapshot → Bool) :
    Engine × Except Interruption RunResult :=
  drive cancels engine (.unstarted script speed) []

end Engine

/-- The observer that cancels at the snapshot with a given number. -/
def Snapshot.isNumber (number : Option Int) (shown : Snapshot) : Bool :=
  number == some (shown.seq : Int)

end StepScript

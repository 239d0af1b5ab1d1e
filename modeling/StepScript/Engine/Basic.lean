import StepScript.Run.Snapshot

/-!
# The engine

An engine works on one run at a time.  It can be cleared when no run is under way, asked to cancel
the run that is, and given other limits at any time.
-/

namespace StepScript

/-- An engine.  A cancelled run stops where it is suspended; `delay` is the pause after each
snapshot, in seconds. -/
structure Engine where
  limits : Limits
  phase : Phase
  cancelRequested : Bool
  delay : Float
  machine : Machine

/-- Why an engine refuses a call. -/
inductive Refusal where
  | resetWhileRunning
  | alreadyRunning
  deriving DecidableEq, Repr

def Refusal.message : Refusal → String
  | .resetWhileRunning => "Cannot reset while a run is in progress; cancel it first"
  | .alreadyRunning => "A run is already in progress"

/-- Why a call to an engine ends without an outcome. -/
inductive Interruption where
  | refused (cause : Refusal)
  | breakdown (cause : Breakdown)
  deriving DecidableEq

def Interruption.message : Interruption → String
  | .refused cause => cause.message
  | .breakdown cause => cause.message

/-- The pause after each snapshot, in seconds, for a speed between 1 and 100.  Speeds outside of the
range count as its ends, and without a speed there is no pause. -/
def pacing : Option Value → Except Breakdown Float
  | none => .ok 0
  | some (.array _) => .error .speedIsArray
  | some (.boolean value) => .ok (pause (if value then 1 else 0))
  | some (.number value) => .ok (pause value)
where
  /-- The pause for a number.  NaN lies in no range and stays what it is. -/
  pause (speed : Float) : Float :=
    let raised := if speed < 1 then 1 else speed
    let bounded := if 100 < raised then 100 else raised
    (2000 - 18 * bounded) / 1000

namespace Engine

def new : Engine :=
  ⟨.standard, .idle, false, 0, .initial⟩

def withLimits (limits : Limits) : Engine :=
  { new with limits }

/-- Whether a run is under way. -/
def isRunning (engine : Engine) : Bool :=
  engine.phase == .running

/-- The engine without what earlier runs have left.  The limits stay. -/
def cleared (engine : Engine) : Engine :=
  withLimits engine.limits

/-- Clears the engine, unless a run is under way. -/
def reset (engine : Engine) : Except Refusal Engine :=
  if engine.isRunning then .error .resetWhileRunning else .ok engine.cleared

/-- Asks the run to stop where it is suspended. -/
def cancel (engine : Engine) : Engine :=
  { engine with cancelRequested := true }

/-- Changes the limits that are given. -/
def configure (maxSteps maxLoop : Option Int) (engine : Engine) : Engine :=
  { engine with
    limits := ⟨maxSteps.getD engine.limits.maxSteps, maxLoop.getD engine.limits.maxLoop⟩ }

end Engine

end StepScript

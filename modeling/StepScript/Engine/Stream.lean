import StepScript.Dialect
import StepScript.Engine.Basic
import StepScript.Text.Lines

/-!
# Streams

A stream is a run that is taken snapshot by snapshot.  Between two snapshots it is suspended, and
all that it needs to go on is the engine and the control point it has reached.  A stream whose
script holds nothing that breaks a call ends after finitely many snapshots, because every snapshot
brings it closer to its end (`Stream.decreases`).
-/

namespace StepScript

/-- A stream that has not ended: nothing has been asked of it yet, it stands between two snapshots,
or the last snapshot has been taken and only the outcome is left. -/
inductive Stream where
  | unstarted (script : Text) (speed : Option Value)
  | suspended (lines : List Text) (control : Control)
  | settled (outcome : Outcome)

/-- What a stream answers when it is asked to go on.  After everything but a snapshot it has
ended. -/
inductive Reply where
  | snapshot (shown : Snapshot) (rest : Stream)
  | outcome (reached : Outcome)
  | interrupted (cause : Interruption)

namespace Engine

/-- Ends a run with a last snapshot. -/
def settle (engine : Engine) (event : Event) (phase : Phase) (entry : LogEntry)
    (outcome : Outcome) : Engine × Reply :=
  let ended := { engine.machine with cursor := none, highlight := none }
  let (machine, shown) :=
    (ended.record entry).snapshot event phase (some outcome.message) outcome.report
  ({ engine with phase, machine }, .snapshot shown (.settled outcome))

/-- Lets a run go on from a control point up to its next snapshot. -/
def advance (engine : Engine) (lines : List Text) (control : Control) : Engine × Reply :=
  match nextStop engine.limits engine.machine control with
  | .change event machine reached =>
    let (machine, shown) := machine.snapshot event .running none none
    ({ engine with phase := .running, machine }, .snapshot shown (.suspended lines reached))
  | .finish machine =>
    { engine with machine }.settle .completed .completed .completed .completed
  | .fault machine cause =>
    let outcome := Outcome.failed (.ofFault lines machine.cursor cause)
    { engine with machine := { machine with frame := none } }.settle .failed .failed
      (.failed outcome.message) outcome
  | .breakdown machine cause => ({ engine with machine }, .interrupted (.breakdown cause))

/-- Starts a run and lets it go on up to its first snapshot.  A script in a foreign dialect is
rejected without a snapshot. -/
def start (engine : Engine) (script : Text) (speed : Option Value) : Engine × Reply :=
  if engine.isRunning then (engine, .interrupted (.refused .alreadyRunning))
  else
    let fresh := engine.cleared
    match Dialect.violation? script with
    | some rule =>
      let outcome := Outcome.rejected rule
      ({ fresh with phase := .failed, machine := fresh.machine.record (.failed outcome.message) },
        .outcome outcome)
    | none =>
      let running := { fresh with phase := .running }
      match pacing speed with
      | .error cause => (running, .interrupted (.breakdown cause))
      | .ok delay =>
        let lines := Text.lines script
        { running with delay, machine := running.machine.record .started }.advance lines
          (.top (numberLines 0 lines))

def next (engine : Engine) : Stream → Engine × Reply
  | .unstarted script speed => engine.start script speed
  | .suspended lines control =>
    if engine.cancelRequested then ({ engine with phase := .cancelled }, .outcome .cancelled)
    else engine.advance lines control
  | .settled outcome => (engine, .outcome outcome)

/-- Gives up a stream.  If it is suspended, its run is cancelled. -/
def close (engine : Engine) : Stream → Engine
  | .suspended _ _ => { engine with phase := .cancelled }
  | .unstarted _ _ | .settled _ => engine

end Engine

namespace Stream

/-- How much of a stream is left. -/
def measure (limits : Limits) : Stream → Nat × Nat × Nat
  | .unstarted script _ => (2 * (Text.lines script).length + 2, 0, 0)
  | .suspended _ control => control.measure limits
  | .settled _ => (0, 0, 0)

theorem settled_closer (limits : Limits) (outcome : Outcome) (control : Control) :
    Step.Closer ((settled outcome).measure limits) (control.measure limits) := by
  cases control <;> exact .left _ _ (by simp)

theorem advance_limits (engine : Engine) (lines : List Text) (control : Control) :
    (engine.advance lines control).1.limits = engine.limits := by
  unfold Engine.advance
  split <;> rfl

theorem advance_closer {engine : Engine} {lines : List Text} {control : Control}
    {shown : Snapshot} {rest : Stream}
    (answer : (engine.advance lines control).2 = .snapshot shown rest) :
    Step.Closer (rest.measure engine.limits) (control.measure engine.limits) := by
  unfold Engine.advance at answer
  split at answer
  · rename_i stop
    injection answer with _ same
    subst same
    exact nextStop_decreases stop
  · injection answer with _ same
    subst same
    exact settled_closer _ _ _
  · injection answer with _ same
    subst same
    exact settled_closer _ _ _
  · simp at answer

theorem next_limits (engine : Engine) (stream : Stream) :
    (engine.next stream).1.limits = engine.limits := by
  match stream with
  | .unstarted script speed =>
    simp only [Engine.next, Engine.start]
    split
    · rfl
    · split
      · rfl
      · split
        · rfl
        · exact advance_limits _ _ _
  | .suspended lines control =>
    simp only [Engine.next]
    split
    · rfl
    · exact advance_limits _ _ _
  | .settled outcome => rfl

/-- A stream that gives a snapshot has come closer to its end. -/
theorem decreases {engine : Engine} {stream rest : Stream} {shown : Snapshot}
    (answer : (engine.next stream).2 = .snapshot shown rest) :
    Step.Closer (rest.measure engine.limits) (stream.measure engine.limits) := by
  match stream with
  | .unstarted script speed =>
    simp only [Engine.next, Engine.start] at answer
    split at answer
    · simp at answer
    · split at answer
      · simp at answer
      · split at answer
        · simp at answer
        · refine (advance_closer answer).trans (.left _ _ ?_)
          simp [length_numberLines]
  | .suspended lines control =>
    simp only [Engine.next] at answer
    split at answer
    · simp at answer
    · exact advance_closer answer
  | .settled outcome => simp [Engine.next] at answer

/-- The same, measured by the limits of the engine that goes on. -/
theorem decreases_of_next {engine suspended : Engine} {stream rest : Stream} {shown : Snapshot}
    (answer : engine.next stream = (suspended, .snapshot shown rest)) :
    Step.Closer (rest.measure suspended.limits) (stream.measure engine.limits) := by
  have limits := next_limits engine stream
  rw [answer] at limits
  rw [show suspended.limits = engine.limits from limits]
  exact decreases (congrArg Prod.snd answer)

end Stream

end StepScript

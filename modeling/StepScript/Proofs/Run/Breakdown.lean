import StepScript.Proofs.Breakdown
import StepScript.Proofs.Run.Course
import StepScript.Proofs.Run.Operation

/-!
# Runs that break the call

A run ends a call without an outcome exactly if it meets a statement that breaks: a loop header or
the consequence of a condition that cannot be read, or a declaration of an oversized literal.  Such
a run leaves the engine running, so that it can neither be cleared nor run another script; every
other run leaves an engine that can (`Engine.settled_iff`).
-/

namespace StepScript

variable {limits : Limits} {cancels : Snapshot → Bool} {machine : Machine} {control : Control}

/-- The statement in front of which a run stands breaks the call.  The line behind a condition is
read whether or not the condition holds. -/
inductive Breaks (limits : Limits) (machine : Machine) : Control → Prop where
  | header {place : Place} {line : Line} {more : List Line}
      (unreadable : UnreadableHeader line.text) :
      Breaks limits machine (place.control (line :: more))
  | literal {place : Place} {line : Line} {more : List Line} {name expression : Text}
      {keyword : Keyword}
      (classified : classify line.text = .ok (.declaration name expression keyword))
      (within : ¬Step.Exhausted limits machine) (oversized : OversizedLiteral expression) :
      Breaks limits machine (place.control (line :: more))
  | consequence {place : Place} {line next : Line} {more rest : List Line} {condition : Text}
      {value : Value}
      (judged : Step.Judged limits machine line more condition value (next :: rest))
      (unreadable : UnreadableHeader next.text) :
      Breaks limits machine (place.control (line :: more))

theorem Breaks.step_eq (breaks : Breaks limits machine control) :
    ∃ stopped cause, step limits machine control = .breakdown stopped cause := by
  cases breaks with
  | header unreadable =>
    rcases classify_error_iff.mpr unreadable with ⟨cause, error⟩
    exact ⟨_, cause, by rw [Step.step_control, Step.statement, error]⟩
  | @literal place line more name expression keyword classified within oversized =>
    have declared :=
      @Machine.declare_breakdown_iff (machine.visit place.inBody line) name expression keyword
    rcases declared.mpr oversized with ⟨cause, error⟩
    refine ⟨machine.visit place.inBody line, cause, ?_⟩
    rw [Step.step_control, Step.statement, classified]
    simp only [Step.visiting_of_within within, error]
    rfl
  | @consequence place line next more rest condition value judged unreadable =>
    rcases classify_error_iff.mpr unreadable with ⟨cause, error⟩
    refine ⟨machine.visit place.inBody line, cause, ?_⟩
    rw [Step.step_control, Step.statement, judged.classified]
    simp only [Step.visiting_of_within judged.within, Step.conditional, Machine.visit_environment,
      judged.evaluated, judged.behind_eq, error]

namespace Course

variable {shots : List Snapshot} {ending : Ending}

end Course

namespace Engine

variable {engine : Engine} {script : Text}

end Engine

end StepScript

import StepScript.Proofs.Run.Course
import StepScript.Proofs.Run.Operation

/-!
# Larger limits

A step asks for the limits only to see whether they stop it, so that under larger limits it does the
same or goes on where the smaller ones stop it (`step_persists`).  A run under larger limits
therefore shows everything that a run under smaller ones shows, and nothing else unless a limit has
ended the latter.
-/

namespace StepScript

/-- Limits are ordered by what they allow, both of steps and of rounds. -/
instance : LE Limits where
  le small large := small.maxSteps ≤ large.maxSteps ∧ small.maxLoop ≤ large.maxLoop

def FaultCode.isLimit : FaultCode → Bool
  | .stepLimit | .loopLimit => true
  | _ => false

namespace Step

def isLimited : Step → Bool
  | .fault _ cause => cause.code.isLimit
  | _ => false

/-- Another result is the same as that of a step, unless a limit has stopped the step. -/
def Persists (result other : Step) : Prop :=
  result.isLimited = true ∨ other = result

theorem Persists.refl (result : Step) : result.Persists result :=
  .inr rfl

variable {limits larger : Limits}

theorem persists_visiting (allowed : limits ≤ larger) {inBody : Bool} {line : Line}
    {machine : Machine} {next nextLarger : Machine → Step}
    (persists : ∀ visited, (next visited).Persists (nextLarger visited)) :
    (visiting limits inBody line machine next).Persists
      (visiting larger inBody line machine nextLarger) := by
  by_cases exceeded : Exhausted limits machine
  · left
    rw [visiting_of_exhausted exceeded]
    rfl
  · have within : ¬Exhausted larger machine := by
      have steps := allowed.1
      unfold Exhausted at exceeded ⊢
      omega
    rw [visiting_of_within exceeded, visiting_of_within within]
    exact persists (machine.visit inBody line)

theorem persists_conditional (allowed : limits ≤ larger) (inBody : Bool)
    (resume : List Line → Control) (machine : Machine) (condition : Text) (more : List Line) :
    (conditional limits inBody resume machine condition more).Persists
      (conditional larger inBody resume machine condition more) := by
  unfold conditional
  split
  · exact .refl _
  · split
    · exact .refl _
    · split
      · exact .refl _
      · split
        · apply persists_visiting allowed
          intro visited
          exact .refl _
        · exact .refl _

theorem persists_statement (allowed : limits ≤ larger) (inBody : Bool)
    (resume : List Line → Control) (machine : Machine) (line : Line) (more : List Line) :
    (statement limits inBody resume machine line more).Persists
      (statement larger inBody resume machine line more) := by
  unfold statement
  split
  · exact .refl _
  · exact .refl _
  · exact .refl _
  · apply persists_visiting allowed
    intro visited
    split
    · exact .refl _
    · exact .refl _
    · exact persists_conditional allowed inBody resume visited _ more
    · exact .refl _
    · exact .refl _

theorem persists_test (allowed : limits ≤ larger) (machine : Machine) (frame : Frame)
    (value : Float) (after : List Line) :
    (test limits machine frame value after).Persists (test larger machine frame value after) := by
  unfold test
  split
  · exact .refl _
  · exact .refl _
  · dsimp only
    by_cases exceeded : limits.maxLoop < ((frame.iterations + 1 : Nat) : Int)
    · left
      rw [if_pos exceeded]
      rfl
    · have within : ¬larger.maxLoop < ((frame.iterations + 1 : Nat) : Int) := by
        have rounds := allowed.2
        omega
      rw [if_neg exceeded, if_neg within]
      exact .refl _

end Step

/-- Larger limits change a step only where the smaller ones stop it. -/
theorem step_persists {limits larger : Limits} (allowed : limits ≤ larger) (machine : Machine)
    (control : Control) : (step limits machine control).Persists (step larger machine control) := by
  match control with
  | .top [] => exact .refl _
  | .top (line :: more) => exact Step.persists_statement allowed false .top machine line more
  | .test frame value after => exact Step.persists_test allowed machine frame value after
  | .body frame [] after => exact .refl _
  | .body frame (line :: more) after =>
    exact Step.persists_statement allowed true (fun rest => .body frame rest after) machine line
      more

section Step

variable {limits larger : Limits} {machine : Machine} {control : Control} {result : Step}

theorem step_eq_of_unlimited (allowed : limits ≤ larger)
    (steps : step limits machine control = result) (unlimited : result.isLimited = false) :
    step larger machine control = result := by
  rcases step_persists allowed machine control with limited | same
  · simp [steps, unlimited] at limited
  · exact same.trans steps

end Step

def Ending.isLimited : Ending → Bool
  | .faulted _ cause => cause.code.isLimit
  | _ => false

def RunResult.isLimited (result : RunResult) : Bool :=
  result.outcome.report.any fun report => report.code.isLimit

/-- Under larger limits a course is the same, or goes on where a limit has ended it. -/
theorem Course.extends {limits larger : Limits} {cancels : Snapshot → Bool} {machine : Machine}
    {control : Control} {shots : List Snapshot} {ending : Ending} (allowed : limits ≤ larger)
    (course : Course limits cancels machine control shots ending) :
    Course larger cancels machine control shots ending ∨
      ending.isLimited = true ∧ ∃ more other,
        Course larger cancels machine control (shots ++ more) other := by
  induction course with
  | silent goes rest ih =>
    have goes := step_eq_of_unlimited allowed goes rfl
    rcases ih with same | ⟨limited, more, other, longer⟩
    · exact .inl (.silent goes same)
    · exact .inr ⟨limited, more, other, .silent goes longer⟩
  | shown goes kept rest ih =>
    have goes := step_eq_of_unlimited allowed goes rfl
    rcases ih with same | ⟨limited, more, other, longer⟩
    · exact .inl (.shown goes kept same)
    · exact .inr ⟨limited, more, other, .shown goes kept longer⟩
  | cancelled goes stopped =>
    exact .inl (.cancelled (step_eq_of_unlimited allowed goes rfl) stopped)
  | finished ends => exact .inl (.finished (step_eq_of_unlimited allowed ends rfl))
  | broken breaks => exact .inl (.broken (step_eq_of_unlimited allowed breaks rfl))
  | @faulted machine stopped control cause fails =>
    cases limited : cause.code.isLimit with
    | false => exact .inl (.faulted (step_eq_of_unlimited allowed fails limited))
    | true =>
      rcases Course.total larger cancels machine control with ⟨more, other, longer⟩
      exact .inr ⟨limited, more, other, longer⟩

theorem RunResult.isLimited_eq {lines : List Text} {ending : Ending} {result : RunResult}
    (ends : ending.outcome lines = .ok result.outcome) : result.isLimited = ending.isLimited := by
  cases ending with
  | finished | faulted | cancelled =>
    rw [isLimited, ← Except.ok.inj ends]
    rfl
  | broken => simp [Ending.outcome] at ends

/-- A run under larger limits begins with the changes that the run under smaller ones shows, and
unless a limit has ended the latter, it gives the same result. -/
theorem Engine.run_extends {engine larger ended endedLarger : Engine} {script : Text}
    {speed : Option Value} {result extended : RunResult}
    (steps : engine.limits.maxSteps ≤ larger.limits.maxSteps)
    (rounds : engine.limits.maxLoop ≤ larger.limits.maxLoop)
    (returned : engine.run script speed (fun _ => false) = (ended, .ok result))
    (returnedLarger : larger.run script speed (fun _ => false) = (endedLarger, .ok extended)) :
    result.changes <+: extended.changes ∧ (result.isLimited = false → extended = result) := by
  have allowed : engine.limits ≤ larger.limits := ⟨steps, rounds⟩
  rcases run_cases returned with ⟨rule, violated, rfl, _⟩ | ⟨accepted, shots, ending, course, left⟩
  · rcases run_cases returnedLarger with ⟨other, violatedToo, rfl, _⟩ | ⟨accepted, _⟩
    · obtain rfl : rule = other := Option.some.inj (violated.symm.trans violatedToo)
      exact ⟨List.prefix_rfl, fun _ => rfl⟩
    · simp [violated] at accepted
  · have answered := left.2.2.symm
    rcases Ending.of_answer answered with ⟨ends, all, _⟩
    have changes : result.changes = shots := RunResult.changes_eq course all
    rcases course.extends allowed with same | ⟨limited, more, other, longer⟩
    · have answeredLarger := (concludes_of_course returnedLarger accepted same).2.2
      rw [returnedLarger] at answeredLarger
      have equal : extended = result := Except.ok.inj (answeredLarger.trans answered)
      exact ⟨equal ▸ List.prefix_rfl, fun _ => equal⟩
    · have answeredLarger := (concludes_of_course returnedLarger accepted longer).2.2
      rw [returnedLarger] at answeredLarger
      rcases Ending.of_answer answeredLarger.symm with ⟨_, allLarger, _⟩
      constructor
      · rw [changes, RunResult.changes_eq longer allLarger]
        exact List.prefix_append shots more
      · intro unlimited
        rw [RunResult.isLimited_eq ends, limited] at unlimited
        simp at unlimited

/-- Two declarations: a single step shows the first of them, the standard limits show both. -/
theorem Engine.run_extends_of_declarations :
    (withLimits ⟨1, 1⟩).limits.maxSteps ≤ new.limits.maxSteps ∧
    (withLimits ⟨1, 1⟩).limits.maxLoop ≤ new.limits.maxLoop ∧
    ∃ ended endedLarger result extended,
      (withLimits ⟨1, 1⟩).run "let a = []\nlet b = []".toList none (fun _ => false) =
        (ended, .ok result) ∧
      new.run "let a = []\nlet b = []".toList none (fun _ => false) =
        (endedLarger, .ok extended) ∧
      result.changes.length = 1 ∧ extended.changes.length = 2 ∧
      result.changes <+: extended.changes ∧ (result.isLimited = false → extended = result) := by
  let first := (Machine.started.visit false ⟨0, "let a = []".toList⟩).written ['a'] (.array [])
  let second := ((first.showing .declare).1.visit false ⟨1, "let b = []".toList⟩).written ['b']
    (.array [])
  have declares : step ⟨1, 1⟩ .started
      (.top (numberLines 0 (Text.lines "let a = []\nlet b = []".toList))) =
      .go (some .declare) first (.top [⟨1, "let b = []".toList⟩]) := by cbv
  have declaresToo : step .standard .started
      (.top (numberLines 0 (Text.lines "let a = []\nlet b = []".toList))) =
      .go (some .declare) first (.top [⟨1, "let b = []".toList⟩]) := by cbv
  have fails : step ⟨1, 1⟩ (first.showing .declare).1 (.top [⟨1, "let b = []".toList⟩]) =
      .fault ((first.showing .declare).1.visit false ⟨1, "let b = []".toList⟩) (.stepLimit 1) := by
    cbv
  have goesOn : step .standard (first.showing .declare).1 (.top [⟨1, "let b = []".toList⟩]) =
      .go (some .declare) second (.top []) := by cbv
  have short : Course ⟨1, 1⟩ (fun _ => false) .started
      (.top (numberLines 0 (Text.lines "let a = []\nlet b = []".toList)))
      [(first.showing .declare).2] (.faulted _ (.stepLimit 1)) :=
    .shown declares rfl (.faulted fails)
  have long : Course .standard (fun _ => false) .started
      (.top (numberLines 0 (Text.lines "let a = []\nlet b = []".toList)))
      [(first.showing .declare).2, (second.showing .declare).2]
      (.finished (second.showing .declare).1) :=
    .shown declaresToo rfl (.shown goesOn rfl (.finished rfl))
  have accepted : Dialect.violation? "let a = []\nlet b = []".toList = none := by cbv
  have idle : ∀ limits, (withLimits limits).isRunning = false := fun _ => rfl
  rcases run_ok_of_course (idle ⟨1, 1⟩) accepted short rfl with ⟨ended, returned⟩
  rcases run_ok_of_course (idle .standard) accepted long rfl with ⟨endedLarger, returnedLarger⟩
  refine ⟨by decide, by decide, ended, endedLarger, _, _, returned, returnedLarger, ?_, ?_,
    run_extends (by decide) (by decide) returned returnedLarger⟩
  · rw [RunResult.changes_eq short rfl]
    rfl
  · rw [RunResult.changes_eq long rfl]
    rfl

end StepScript

import StepScript.Proofs.Alignment.Step
import StepScript.Proofs.Padding.Run

/-!
# Runs of aligned scripts

The runs of aligned scripts show the same, and come to the same outcome (`Engine.run_aligned`).  If
the second script holds extra lines, this needs their cost: its run must not come to the limit of
steps.
-/

namespace StepScript

/-- Snapshots that show the same, at whatever line and behind whatever log. -/
structure Snapshot.Agrees (shown other : Snapshot) : Prop where
  seq : other.seq = shown.seq
  event : other.event = shown.event
  phase : other.phase = shown.phase
  environment : other.environment = shown.environment
  array : other.array = shown.array
  highlight : other.highlight = shown.highlight
  message : other.message = shown.message

structure Snapshot.Aligns (alignment : Alignment) (shown other : Snapshot) : Prop
    extends Agrees shown other where
  line : Option.Rel alignment.stands shown.line other.line
  log : alignment.extra = false → other.log.length = shown.log.length

/-- Outcomes of the same kind, with the same wording and error code. -/
structure Outcome.Agrees (outcome other : Outcome) : Prop where
  phase : other.phase = outcome.phase
  message : other.message = outcome.message
  code : other.report.map Report.code = outcome.report.map Report.code

structure RunResult.Aligns (alignment : Alignment) (result other : RunResult) : Prop where
  snapshots : List.Forall₂ (Snapshot.Aligns alignment) result.snapshots other.snapshots
  outcome : result.outcome.Agrees other.outcome

/-- Endings of the same kind, at aligned machines. -/
inductive Ending.Aligns (alignment : Alignment) : Ending → Ending → Prop
  | finished {machine other : Machine} (machines : machine.Aligns alignment other) :
      Aligns alignment (.finished machine) (.finished other)
  | faulted {machine other : Machine} {cause otherCause : Fault}
      (machines : machine.Aligns alignment other) (alike : cause.Alike otherCause) :
      Aligns alignment (.faulted machine cause) (.faulted other otherCause)
  | broken {machine other : Machine} {cause : Breakdown} :
      Aligns alignment (.broken machine cause) (.broken other cause)

variable {alignment : Alignment}

namespace Machine

variable {machine other : Machine}

theorem Meets.snapshot (meets : machine.Meets alignment other) (event : Event) (phase : Phase)
    (message : Option String) (report otherReport : Option Report) :
    Machine.Aligns alignment (machine.snapshot event phase message report).1
        (other.snapshot event phase message otherReport).1 ∧
      Snapshot.Aligns alignment (machine.snapshot event phase message report).2
        (other.snapshot event phase message otherReport).2 := by
  constructor
  · exact { meets.toAligns with taken := congrArg (· + 1) meets.taken }
  · exact
      { seq := congrArg (· + 1) meets.taken
        event := rfl
        phase := rfl
        environment := meets.environment
        array := meets.shownArray?
        highlight := meets.highlight
        message := rfl
        line := meets.cursor
        log := by
          intro none
          have entries := (meets.abreast none).2
          exact List.length_reverse.trans (entries.trans List.length_reverse.symm) }

theorem Aligns.concluding (machines : machine.Aligns alignment other) (event : Event)
    (phase : Phase) {entry otherEntry : LogEntry} {outcome otherOutcome : Outcome}
    (message : otherOutcome.message = outcome.message) :
    Snapshot.Aligns alignment (machine.concluding event phase entry outcome).2
      (other.concluding event phase otherEntry otherOutcome).2 := by
  have ended : Meets alignment
      ({ machine with cursor := none, highlight := none }.record entry)
      ({ other with cursor := none, highlight := none }.record otherEntry) :=
    { machines with
      cursor := .none
      highlight := rfl
      abreast := by
        intro none
        obtain ⟨steps, entries⟩ := machines.abreast none
        exact ⟨steps, congrArg (· + 1) entries⟩ }
  unfold Machine.concluding
  rw [message]
  exact (ended.snapshot event phase _ _ _).2

end Machine

/-! ## Courses -/

/-- The course of the second script is aligned with one of the first, unless it comes to the limit
of steps where lines of its own have used them up. -/
theorem Course.aligned {limits : Limits} {machine other : Machine}
    {control otherControl : Control} {otherShots : List Snapshot} {otherEnding : Ending}
    (course : Course limits (fun _ => false) other otherControl otherShots otherEnding)
    (machines : machine.Aligns alignment other)
    (controls : control.Aligns alignment otherControl)
    (unlimited : alignment.extra = true →
      ∀ stopped, otherEnding ≠ .faulted stopped (.stepLimit limits.maxSteps)) :
    ∃ shots ending, Course limits (fun _ => false) machine control shots ending ∧
      List.Forall₂ (Snapshot.Aligns alignment) shots otherShots ∧
      ending.Aligns alignment otherEnding := by
  induction course generalizing machine control with
  | silent goesToo rest ih =>
    obtain ⟨after, reached, passes, aligned, left⟩ | steps := step_aligned limits machines controls
    · cases passes.symm.trans goesToo
      exact ih aligned left unlimited
    · rw [goesToo] at steps
      generalize goes : step limits machine control = result at steps
      cases steps with
      | silent aligned left =>
        obtain ⟨shots, ending, course, shows, ends⟩ := ih aligned left unlimited
        exact ⟨shots, ending, .silent goes course, shows, ends⟩
  | @shown _ _ _ _ event _ _ goesToo kept rest ih =>
    obtain ⟨after, reached, passes, aligned, left⟩ | steps := step_aligned limits machines controls
    · cases passes.symm.trans goesToo
    · rw [goesToo] at steps
      generalize goes : step limits machine control = result at steps
      cases steps with
      | shown meets left =>
        obtain ⟨counted, shown⟩ := meets.snapshot event .running none none none
        obtain ⟨shots, ending, course, shows, ends⟩ := ih counted left unlimited
        exact ⟨_, ending, .shown goes rfl course, .cons shown shows, ends⟩
  | cancelled goesToo stopped => cases stopped
  | finished endsToo =>
    obtain ⟨after, reached, passes, aligned, left⟩ | steps := step_aligned limits machines controls
    · cases passes.symm.trans endsToo
    · rw [endsToo] at steps
      generalize ends : step limits machine control = result at steps
      cases steps with
      | finish aligned => exact ⟨[], _, .finished ends, .nil, .finished aligned⟩
  | faulted failsToo =>
    obtain ⟨after, reached, passes, aligned, left⟩ | steps := step_aligned limits machines controls
    · cases passes.symm.trans failsToo
    · rw [failsToo] at steps
      generalize fails : step limits machine control = result at steps
      cases steps with
      | fault aligned alike => exact ⟨[], _, .faulted fails, .nil, .faulted aligned alike⟩
      | exhausted allowed => exact absurd rfl (unlimited allowed _)
  | broken breaksToo =>
    obtain ⟨after, reached, passes, aligned, left⟩ | steps := step_aligned limits machines controls
    · cases passes.symm.trans breaksToo
    · rw [breaksToo] at steps
      generalize breaks : step limits machine control = result at steps
      cases steps with
      | breakdown => exact ⟨[], _, .broken breaks, .nil, .broken⟩

/-! ## Whole runs -/

theorem Ending.Aligns.answer {lines otherLines : List Text} {shots otherShots : List Snapshot}
    {ending otherEnding : Ending} {result other : RunResult}
    (shows : List.Forall₂ (Snapshot.Aligns alignment) shots otherShots)
    (ends : ending.Aligns alignment otherEnding)
    (answered : ending.answer lines shots = .ok result)
    (answeredToo : otherEnding.answer otherLines otherShots = .ok other) :
    result.Aligns alignment other := by
  cases ends with
  | finished machines =>
    cases answered
    cases answeredToo
    exact ⟨List.rel_append shows (.cons (machines.concluding _ _ rfl) .nil), rfl, rfl, rfl⟩
  | @faulted machine otherMachine cause otherCause machines alike =>
    cases answered
    cases answeredToo
    obtain ⟨message, code⟩ := failure_alike alike
    have stopped : Machine.Aligns alignment { machine with frame := none }
        { otherMachine with frame := none } := { machines with }
    exact ⟨List.rel_append shows (.cons (stopped.concluding _ _ message) .nil), rfl, message, code⟩
  | broken => cases answered

/-- The runs of aligned scripts show the same and end alike, unless extra lines have led to the
limit of steps. -/
theorem Engine.run_aligned {engine other ended otherEnded : Engine} {script otherScript : Text}
    {speed otherSpeed : Option Value} {result otherResult : RunResult}
    (aligned : Aligned alignment false false (numberLines 0 (Text.lines script))
      (numberLines 0 (Text.lines otherScript)))
    (limits : other.limits = engine.limits) (accepted : Dialect.violation? script = none)
    (acceptedToo : Dialect.violation? otherScript = none)
    (returned : engine.run script speed (fun _ => false) = (ended, .ok result))
    (returnedToo : other.run otherScript otherSpeed (fun _ => false) =
      (otherEnded, .ok otherResult))
    (unlimited : alignment.extra = true →
      otherResult.outcome.report.map Report.code ≠ some .stepLimit) :
    result.Aligns alignment otherResult := by
  obtain ⟨rule, violated, _⟩ | ⟨_, otherShots, otherEnding, otherCourse, _, _, answeredToo⟩ :=
    run_cases returnedToo
  · simp [acceptedToo] at violated
  · have started : Machine.Aligns alignment .started .started :=
      ⟨rfl, rfl, rfl, .nil, rfl, Nat.le_refl _, fun _ => ⟨rfl, rfl⟩⟩
    have goesOn : alignment.extra = true →
        ∀ stopped, otherEnding ≠ .faulted stopped (.stepLimit other.limits.maxSteps) := by
      intro allowed stopped ends
      rw [ends] at answeredToo
      cases answeredToo
      exact unlimited allowed rfl
    obtain ⟨shots, ending, course, shows, ends⟩ :=
      otherCourse.aligned started (.lines .top aligned) goesOn
    rw [limits] at course
    have answered := (concludes_of_course returned accepted course).2.2
    rw [returned] at answered
    exact ends.answer shows answered.symm answeredToo.symm

end StepScript

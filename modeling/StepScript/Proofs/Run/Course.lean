import StepScript.Engine.Run
import StepScript.Proofs.Run.Rule

/-!
# Courses of a run

A run is driven by an engine that suspends it at every change.  Here the engine is taken away: a
course is the chain of steps from a control point on, with the snapshots that are taken on the way
and the ending that it comes to.  Every control point has a course (`Course.total`), and whatever an
engine answers to a run is read off one (`Engine.run_cases`), so that properties of runs are proved
by induction on courses.
-/

namespace StepScript

inductive Ending where
  | finished (machine : Machine)
  | faulted (machine : Machine) (cause : Fault)
  | broken (machine : Machine) (cause : Breakdown)
  | cancelled (machine : Machine)

namespace Machine

/-- The machine in front of the first line of a script. -/
def started : Machine :=
  initial.record .started

/-- The snapshot of a change, and the machine that has counted it. -/
def showing (event : Event) (machine : Machine) : Machine × Snapshot :=
  machine.snapshot event .running none none

/-- The last snapshot of a run that ends by itself, and the machine behind it. -/
def concluding (event : Event) (phase : Phase) (entry : LogEntry) (outcome : Outcome)
    (machine : Machine) : Machine × Snapshot :=
  ({ machine with cursor := none, highlight := none }.record entry).snapshot event phase
    (some outcome.message) outcome.report

end Machine

/-- The course of a run from a control point on: the snapshots of its changes, and its ending. -/
inductive Course (limits : Limits) (cancels : Snapshot → Bool) :
    Machine → Control → List Snapshot → Ending → Prop where
  | silent {machine after : Machine} {control reached : Control} {shots : List Snapshot}
      {ending : Ending}
      (goes : step limits machine control = .go none after reached)
      (rest : Course limits cancels after reached shots ending) :
      Course limits cancels machine control shots ending
  | shown {machine changed : Machine} {control reached : Control} {event : Event}
      {shots : List Snapshot} {ending : Ending}
      (goes : step limits machine control = .go (some event) changed reached)
      (kept : cancels (changed.showing event).2 = false)
      (rest : Course limits cancels (changed.showing event).1 reached shots ending) :
      Course limits cancels machine control ((changed.showing event).2 :: shots) ending
  | cancelled {machine changed : Machine} {control reached : Control} {event : Event}
      (goes : step limits machine control = .go (some event) changed reached)
      (stopped : cancels (changed.showing event).2 = true) :
      Course limits cancels machine control [(changed.showing event).2]
        (.cancelled (changed.showing event).1)
  | finished {machine ended : Machine} {control : Control}
      (ends : step limits machine control = .finish ended) :
      Course limits cancels machine control [] (.finished ended)
  | faulted {machine stopped : Machine} {control : Control} {cause : Fault}
      (fails : step limits machine control = .fault stopped cause) :
      Course limits cancels machine control [] (.faulted stopped cause)
  | broken {machine stopped : Machine} {control : Control} {cause : Breakdown}
      (breaks : step limits machine control = .breakdown stopped cause) :
      Course limits cancels machine control [] (.broken stopped cause)

/-- Every control point has a course, because each step comes closer to the end. -/
theorem Course.total (limits : Limits) (cancels : Snapshot → Bool) (machine : Machine)
    (control : Control) : ∃ shots ending, Course limits cancels machine control shots ending := by
  match goes : step limits machine control with
  | .go none after reached =>
    rcases total limits cancels after reached with ⟨shots, ending, rest⟩
    exact ⟨shots, ending, .silent goes rest⟩
  | .go (some event) changed reached =>
    cases decision : cancels (changed.showing event).2 with
    | true => exact ⟨_, _, .cancelled goes decision⟩
    | false =>
      rcases total limits cancels (changed.showing event).1 reached with ⟨shots, ending, rest⟩
      exact ⟨_, ending, .shown goes decision rest⟩
  | .finish ended => exact ⟨[], _, .finished goes⟩
  | .fault stopped cause => exact ⟨[], _, .faulted goes⟩
  | .breakdown stopped cause => exact ⟨[], _, .broken goes⟩
termination_by control.measure limits
decreasing_by
  · exact Step.decreases ⟨none, after, goes⟩
  · exact Step.decreases ⟨some event, changed, goes⟩

theorem Course.endsRun_of_mem {limits : Limits} {cancels : Snapshot → Bool} {machine : Machine}
    {control : Control} {shots : List Snapshot} {ending : Ending}
    (course : Course limits cancels machine control shots ending) :
    ∀ shown ∈ shots, shown.event.endsRun = false := by
  induction course with
  | silent goes rest ih => exact ih
  | shown goes kept rest ih =>
    intro shown member
    rcases List.mem_cons.mp member with rfl | later
    · exact Step.endsRun_of_go goes
    · exact ih shown later
  | cancelled goes stopped =>
    intro shown member
    rw [List.mem_singleton.mp member]
    exact Step.endsRun_of_go goes
  | finished | faulted | broken => simp

/-- On its course from one machine and control point, a run comes to another one. -/
inductive Passes (limits : Limits) (cancels : Snapshot → Bool) :
    Machine → Control → Machine → Control → Prop where
  | here (machine : Machine) (control : Control) :
      Passes limits cancels machine control machine control
  | silent {machine after found : Machine} {control reached met : Control}
      (goes : step limits machine control = .go none after reached)
      (rest : Passes limits cancels after reached found met) :
      Passes limits cancels machine control found met
  | shown {machine changed found : Machine} {control reached met : Control} {event : Event}
      (goes : step limits machine control = .go (some event) changed reached)
      (kept : cancels (changed.showing event).2 = false)
      (rest : Passes limits cancels (changed.showing event).1 reached found met) :
      Passes limits cancels machine control found met

namespace Course

variable {limits : Limits} {cancels : Snapshot → Bool} {machine after : Machine}
  {control reached : Control} {event : Event} {shots : List Snapshot} {ending : Ending}

/-- Behind a step that nobody sees, the course goes on. -/
theorem of_silent (course : Course limits cancels machine control shots ending)
    (goes : step limits machine control = .go none after reached) :
    Course limits cancels after reached shots ending := by
  cases course with
  | silent goesToo rest =>
    cases goes.symm.trans goesToo
    exact rest
  | shown goesToo | cancelled goesToo | finished goesToo | faulted goesToo | broken goesToo =>
    cases goes.symm.trans goesToo

/-- Behind a change at which nobody cancels, the course goes on. -/
theorem of_shown (course : Course limits cancels machine control shots ending)
    (goes : step limits machine control = .go (some event) after reached)
    (kept : cancels (after.showing event).2 = false) :
    ∃ rest, shots = (after.showing event).2 :: rest ∧
      Course limits cancels (after.showing event).1 reached rest ending := by
  cases course with
  | shown goesToo _ rest =>
    cases goes.symm.trans goesToo
    exact ⟨_, rfl, rest⟩
  | cancelled goesToo stopped =>
    cases goes.symm.trans goesToo
    simp [kept] at stopped
  | silent goesToo | finished goesToo | faulted goesToo | broken goesToo =>
    cases goes.symm.trans goesToo

theorem of_cancelled (course : Course limits cancels machine control shots ending)
    (goes : step limits machine control = .go (some event) after reached)
    (stopped : cancels (after.showing event).2 = true) :
    shots = [(after.showing event).2] ∧ ending = .cancelled (after.showing event).1 := by
  cases course with
  | shown goesToo kept =>
    cases goes.symm.trans goesToo
    simp [stopped] at kept
  | cancelled goesToo =>
    cases goes.symm.trans goesToo
    exact ⟨rfl, rfl⟩
  | silent goesToo | finished goesToo | faulted goesToo | broken goesToo =>
    cases goes.symm.trans goesToo

theorem of_fault {cause : Fault} (course : Course limits cancels machine control shots ending)
    (fails : step limits machine control = .fault after cause) :
    shots = [] ∧ ending = .faulted after cause := by
  cases course with
  | faulted failsToo =>
    cases fails.symm.trans failsToo
    exact ⟨rfl, rfl⟩
  | silent goes | shown goes | cancelled goes | finished goes | broken goes =>
    cases fails.symm.trans goes

theorem of_passes {found : Machine} {met : Control}
    (course : Course limits cancels machine control shots ending)
    (passes : Passes limits cancels machine control found met) :
    ∃ before rest, shots = before ++ rest ∧ Course limits cancels found met rest ending := by
  induction passes generalizing shots with
  | here => exact ⟨[], shots, rfl, course⟩
  | silent goes _ ih => exact ih (course.of_silent goes)
  | shown goes kept _ ih =>
    rcases course.of_shown goes kept with ⟨later, rfl, left⟩
    rcases ih left with ⟨before, rest, rfl, ended⟩
    exact ⟨_ :: before, rest, rfl, ended⟩

end Course

/-! ## What an engine makes of an ending -/

namespace Ending

/-- The outcome of a fault in a script. -/
def failure (lines : List Text) (machine : Machine) (cause : Fault) : Outcome :=
  .failed (.ofFault lines machine.cursor cause)

/-- The machine and the last snapshot, if the run ends by itself. -/
def conclusion? (lines : List Text) : Ending → Option (Machine × Snapshot)
  | .finished machine => some (machine.concluding .completed .completed .completed .completed)
  | .faulted machine cause =>
    let outcome := failure lines machine cause
    some ({ machine with frame := none }.concluding .failed .failed (.failed outcome.message)
      outcome)
  | .broken _ _ | .cancelled _ => none

/-- The machine at which the ending was met. -/
def machine : Ending → Machine
  | .finished machine | .faulted machine _ | .broken machine _ | .cancelled machine => machine

/-- The machine that the run leaves behind. -/
def machineAfter (lines : List Text) (ending : Ending) : Machine :=
  match ending.conclusion? lines with
  | some (machine, _) => machine
  | none => ending.machine

/-- Where the engine stands after the run.  A breakdown leaves it running. -/
def phase : Ending → Phase
  | .finished _ => .completed
  | .faulted _ _ => .failed
  | .broken _ _ => .running
  | .cancelled _ => .cancelled

/-- The outcome of the run, unless it broke down. -/
def outcome (lines : List Text) : Ending → Except Breakdown Outcome
  | .finished _ => .ok .completed
  | .faulted machine cause => .ok (failure lines machine cause)
  | .broken _ cause => .error cause
  | .cancelled _ => .ok .cancelled

/-- The snapshots of the run, given those of its changes. -/
def allShots (lines : List Text) (shots : List Snapshot) (ending : Ending) : List Snapshot :=
  shots ++ ((ending.conclusion? lines).map Prod.snd).toList

/-- What the engine answers, given the snapshots of the changes. -/
def answer (lines : List Text) (shots : List Snapshot) (ending : Ending) :
    Except Interruption RunResult :=
  match ending.outcome lines with
  | .ok outcome =>
    .ok ⟨outcome, ending.allShots lines shots, (ending.machineAfter lines).log⟩
  | .error cause => .error (.breakdown cause)

/-- What the result of a run says about its ending. -/
theorem of_answer {lines : List Text} {shots : List Snapshot} {ending : Ending}
    {result : RunResult} (answered : ending.answer lines shots = .ok result) :
    ending.outcome lines = .ok result.outcome ∧
      result.snapshots = ending.allShots lines shots ∧
      result.log = (ending.machineAfter lines).log := by
  unfold answer at answered
  split at answered
  next outcome reached =>
    cases Except.ok.inj answered
    exact ⟨reached, rfl, rfl⟩
  · simp at answered

end Ending

theorem Ending.eq_finished {lines : List Text} {ending : Ending} {outcome : Outcome}
    (ends : ending.outcome lines = .ok outcome) (completed : outcome.phase = .completed) :
    ending = .finished ending.machine := by
  cases ending with
  | finished machine => rfl
  | faulted machine cause =>
    cases Except.ok.inj ends
    simp [failure, Outcome.failed] at completed
  | broken machine cause => simp [Ending.outcome] at ends
  | cancelled machine =>
    cases Except.ok.inj ends
    simp [Outcome.cancelled] at completed

/-- The snapshot closes a run that has left a machine at its end. -/
structure Snapshot.Closes (machine : Machine) (shown : Snapshot) : Prop where
  endsRun : shown.event.endsRun = true
  environment : shown.environment = machine.environment
  array : shown.array = machine.shownArray?
  highlight : shown.highlight = none

theorem Ending.closes_of_conclusion {lines : List Text} {ending : Ending} {after : Machine}
    {shown : Snapshot} (concluded : ending.conclusion? lines = some (after, shown)) :
    shown.Closes ending.machine := by
  cases ending with
  | finished | faulted =>
    cases congrArg Prod.snd (Option.some.inj concluded)
    exact ⟨rfl, rfl, rfl, rfl⟩
  | broken | cancelled => simp [conclusion?] at concluded

/-- The variables of a run that ends by itself are those at its ending. -/
theorem RunResult.environment_of_conclusion {lines : List Text} {shots : List Snapshot}
    {ending : Ending} {result : RunResult} {after : Machine} {shown : Snapshot}
    (all : result.snapshots = ending.allShots lines shots)
    (concluded : ending.conclusion? lines = some (after, shown)) :
    result.environment = ending.machine.environment := by
  rw [environment, final?, all, Ending.allShots, concluded]
  simpa using (Ending.closes_of_conclusion concluded).environment

/-- The snapshots of a result that show changes: all but one that ends the run. -/
def RunResult.changes (result : RunResult) : List Snapshot :=
  result.snapshots.filter fun shown => !shown.event.endsRun

theorem RunResult.changes_eq {limits : Limits} {cancels : Snapshot → Bool} {machine : Machine}
    {control : Control} {shots : List Snapshot} {ending : Ending} {lines : List Text}
    {result : RunResult} (course : Course limits cancels machine control shots ending)
    (all : result.snapshots = ending.allShots lines shots) : result.changes = shots := by
  have kept : (shots.filter fun shown => !shown.event.endsRun) = shots := by
    apply List.filter_eq_self.mpr
    intro shown member
    simp [course.endsRun_of_mem shown member]
  rw [changes, all, Ending.allShots, List.filter_append, kept]
  cases concluded : ending.conclusion? lines with
  | none => simp
  | some conclusion => simp [(Ending.closes_of_conclusion concluded).endsRun]

section NextStop

variable {limits : Limits} {machine : Machine} {control : Control}

theorem nextStop_of_silent {after : Machine} {reached : Control}
    (goes : step limits machine control = .go none after reached) :
    nextStop limits machine control = nextStop limits after reached := by
  rw [nextStop]
  split <;> simp_all

theorem nextStop_of_change {event : Event} {changed : Machine} {reached : Control}
    (goes : step limits machine control = .go (some event) changed reached) :
    nextStop limits machine control = .change event changed reached := by
  rw [nextStop]
  split <;> simp_all

theorem nextStop_of_finish {ended : Machine} (ends : step limits machine control = .finish ended) :
    nextStop limits machine control = .finish ended := by
  rw [nextStop]
  split <;> simp_all

theorem nextStop_of_fault {stopped : Machine} {cause : Fault}
    (fails : step limits machine control = .fault stopped cause) :
    nextStop limits machine control = .fault stopped cause := by
  rw [nextStop]
  split <;> simp_all

theorem nextStop_of_breakdown {stopped : Machine} {cause : Breakdown}
    (breaks : step limits machine control = .breakdown stopped cause) :
    nextStop limits machine control = .breakdown stopped cause := by
  rw [nextStop]
  split <;> simp_all

end NextStop

namespace Engine

section Advance

variable {engine : Engine} {lines : List Text} {control : Control}

theorem advance_of_silent {after : Machine} {reached : Control}
    (goes : step engine.limits engine.machine control = .go none after reached) :
    engine.advance lines control = { engine with machine := after }.advance lines reached := by
  simp only [advance, nextStop_of_silent goes]

theorem advance_of_change {event : Event} {changed : Machine} {reached : Control}
    (goes : step engine.limits engine.machine control = .go (some event) changed reached) :
    engine.advance lines control =
      ({ engine with phase := .running, machine := (changed.showing event).1 },
        .snapshot (changed.showing event).2 (.suspended lines reached)) := by
  simp only [advance, nextStop_of_change goes]
  rfl

theorem advance_of_finish {ended : Machine}
    (ends : step engine.limits engine.machine control = .finish ended) :
    engine.advance lines control =
      ({ engine with
          phase := .completed
          machine := (ended.concluding .completed .completed .completed .completed).1 },
        .snapshot (ended.concluding .completed .completed .completed .completed).2
          (.settled .completed)) := by
  simp only [advance, nextStop_of_finish ends]
  rfl

theorem advance_of_fault {stopped : Machine} {cause : Fault}
    (fails : step engine.limits engine.machine control = .fault stopped cause) :
    engine.advance lines control =
      let outcome := Ending.failure lines stopped cause
      let concluded := { stopped with frame := none }.concluding .failed .failed
        (.failed outcome.message) outcome
      ({ engine with phase := .failed, machine := concluded.1 },
        .snapshot concluded.2 (.settled outcome)) := by
  simp only [advance, nextStop_of_fault fails]
  rfl

theorem advance_of_breakdown {stopped : Machine} {cause : Breakdown}
    (breaks : step engine.limits engine.machine control = .breakdown stopped cause) :
    engine.advance lines control =
      ({ engine with machine := stopped }, .interrupted (.breakdown cause)) := by
  simp only [advance, nextStop_of_breakdown breaks]

end Advance

section Drive

variable {cancels : Snapshot → Bool} {engine : Engine} {stream : Stream} {seen : List Snapshot}

theorem drive_of_snapshot {suspended : Engine} {shown : Snapshot} {rest : Stream}
    (answer : engine.next stream = (suspended, .snapshot shown rest)) :
    drive cancels engine stream seen =
      drive cancels (suspended.observe cancels shown) rest (shown :: seen) := by
  rw [drive]
  split <;> simp_all

theorem drive_of_outcome {ended : Engine} {outcome : Outcome}
    (answer : engine.next stream = (ended, .outcome outcome)) :
    drive cancels engine stream seen =
      (ended, .ok ⟨outcome, seen.reverse, ended.machine.log⟩) := by
  rw [drive]
  split <;> simp_all

theorem drive_of_interruption {stopped : Engine} {cause : Interruption}
    (answer : engine.next stream = (stopped, .interrupted cause)) :
    drive cancels engine stream seen = (stopped, .error cause) := by
  rw [drive]
  split <;> simp_all

@[simp] theorem observe_machine (cancels : Snapshot → Bool) (shown : Snapshot) (engine : Engine) :
    (engine.observe cancels shown).machine = engine.machine := by
  unfold observe
  split <;> rfl

@[simp] theorem observe_phase (cancels : Snapshot → Bool) (shown : Snapshot) (engine : Engine) :
    (engine.observe cancels shown).phase = engine.phase := by
  unfold observe
  split <;> rfl

/-- A run that has shown its last snapshot only gives its outcome. -/
theorem drive_of_settled {suspended : Engine} {shown : Snapshot} {outcome : Outcome}
    (answer : engine.next stream = (suspended, .snapshot shown (.settled outcome))) :
    drive cancels engine stream seen =
      (suspended.observe cancels shown,
        .ok ⟨outcome, seen.reverse ++ [shown], suspended.machine.log⟩) := by
  rw [drive_of_snapshot answer, drive_of_outcome rfl, observe_machine, List.reverse_cons]

end Drive

/-- What an engine is left with when a run has gone the course to an ending. -/
def Concludes (lines : List Text) (shots : List Snapshot) (ending : Ending)
    (left : Engine × Except Interruption RunResult) : Prop :=
  left.1.phase = ending.phase ∧ left.1.machine = ending.machineAfter lines ∧
    left.2 = ending.answer lines shots

/-- An engine that advances from a control point goes the course from there.  `seen` are the
snapshots before, newest first. -/
theorem drive_of_course {limits : Limits} {cancels : Snapshot → Bool} {lines : List Text}
    {machine : Machine} {control : Control} {shots : List Snapshot} {ending : Ending}
    (course : Course limits cancels machine control shots ending) :
    ∀ (advancing : Engine) {engine : Engine} {stream : Stream} {seen : List Snapshot},
      advancing.limits = limits → advancing.machine = machine →
      advancing.phase = .running → advancing.cancelRequested = false →
      engine.next stream = advancing.advance lines control →
      Concludes lines (seen.reverse ++ shots) ending (drive cancels engine stream seen) := by
  induction course with
  | @silent machine after control reached shots ending goes rest ih =>
    rintro advancing engine stream seen rfl rfl running wanted next
    rw [advance_of_silent goes] at next
    exact ih { advancing with machine := after } rfl rfl running wanted next
  | @shown machine changed control reached event shots ending goes kept rest ih =>
    rintro advancing engine stream seen rfl rfl running wanted next
    rw [advance_of_change goes] at next
    rw [drive_of_snapshot next, observe, kept]
    let suspended : Engine :=
      { advancing with phase := .running, machine := (changed.showing event).1 }
    have resumed : suspended.next (.suspended lines reached) = suspended.advance lines reached :=
      if_neg (by simp [suspended, wanted])
    have left : Concludes lines (((changed.showing event).2 :: seen).reverse ++ shots) ending
        (drive cancels suspended (.suspended lines reached) ((changed.showing event).2 :: seen)) :=
      ih suspended rfl rfl rfl wanted resumed
    simpa using left
  | @cancelled machine changed control reached event goes stopped =>
    rintro advancing engine stream seen rfl rfl running wanted next
    rw [advance_of_change goes] at next
    rw [drive_of_snapshot next, observe, if_pos stopped]
    let ended : Engine :=
      { advancing with
        phase := .cancelled, cancelRequested := true, machine := (changed.showing event).1 }
    have answered : Engine.next { advancing with
        phase := .running, cancelRequested := true, machine := (changed.showing event).1 }
        (.suspended lines reached) = (ended, .outcome .cancelled) := rfl
    refine (drive_of_outcome answered).symm ▸ ?_
    refine ⟨rfl, rfl, ?_⟩
    simp [Ending.answer, Ending.outcome, Ending.allShots, Ending.conclusion?,
      Ending.machineAfter, Ending.machine, ended]
  | finished ends =>
    rintro advancing engine stream seen rfl rfl running wanted next
    rw [advance_of_finish ends] at next
    rw [drive_of_settled next]
    refine ⟨?_, ?_, ?_⟩ <;>
      simp [Ending.answer, Ending.outcome, Ending.allShots, Ending.conclusion?,
        Ending.machineAfter, Ending.phase]
  | faulted fails =>
    rintro advancing engine stream seen rfl rfl running wanted next
    rw [advance_of_fault fails] at next
    rw [drive_of_settled next]
    refine ⟨?_, ?_, ?_⟩ <;>
      simp [Ending.answer, Ending.outcome, Ending.allShots, Ending.conclusion?,
        Ending.machineAfter, Ending.phase]
  | broken breaks =>
    rintro advancing engine stream seen rfl rfl running wanted next
    rw [advance_of_breakdown breaks] at next
    rw [drive_of_interruption next]
    exact ⟨running, rfl, rfl⟩

/-! ## Whole runs -/

variable {engine : Engine} {script : Text} {speed : Option Value} {cancels : Snapshot → Bool}

/-- An engine at work refuses a second stream. -/
theorem next_of_running (busy : engine.isRunning = true) :
    engine.next (.unstarted script speed) = (engine, .interrupted (.refused .alreadyRunning)) := by
  simp only [next, start, busy, if_true]

/-- A script in a foreign dialect is answered at once. -/
theorem next_of_violation {rule : Dialect.Rule} (idle : engine.isRunning = false)
    (found : Dialect.violation? script = some rule) :
    engine.next (.unstarted script speed) =
      ({ engine.cleared with
          phase := .failed
          machine := Machine.initial.record (.failed (Outcome.rejected rule).message) },
        .outcome (.rejected rule)) := by
  simp only [next, start, idle, found]
  rfl

/-- A speed that cannot be read breaks the call. -/
theorem next_of_unpaced {cause : Breakdown} (idle : engine.isRunning = false)
    (accepted : Dialect.violation? script = none) (unpaced : pacing speed = .error cause) :
    engine.next (.unstarted script speed) =
      ({ engine.cleared with phase := .running }, .interrupted (.breakdown cause)) := by
  simp only [next, start, idle, accepted, unpaced]
  rfl

/-- A script that is accepted goes on from its first line. -/
theorem next_of_accepted {delay : Float} (idle : engine.isRunning = false)
    (accepted : Dialect.violation? script = none) (paced : pacing speed = .ok delay) :
    engine.next (.unstarted script speed) =
      { engine.cleared with phase := .running, delay, machine := .started }.advance
        (Text.lines script) (.top (numberLines 0 (Text.lines script))) := by
  simp only [next, start, idle, accepted, paced]
  rfl

theorem run_of_running (busy : engine.isRunning = true) :
    engine.run script speed cancels = (engine, .error (.refused .alreadyRunning)) :=
  drive_of_interruption (next_of_running busy)

theorem run_of_violation {rule : Dialect.Rule} (idle : engine.isRunning = false)
    (found : Dialect.violation? script = some rule) :
    engine.run script speed cancels =
      ({ engine.cleared with
          phase := .failed
          machine := Machine.initial.record (.failed (Outcome.rejected rule).message) },
        .ok ⟨.rejected rule, [], [.failed (Outcome.rejected rule).message]⟩) :=
  drive_of_outcome (next_of_violation idle found)

theorem run_of_unpaced {cause : Breakdown} (idle : engine.isRunning = false)
    (accepted : Dialect.violation? script = none) (unpaced : pacing speed = .error cause) :
    engine.run script speed cancels =
      ({ engine.cleared with phase := .running }, .error (.breakdown cause)) :=
  drive_of_interruption (next_of_unpaced idle accepted unpaced)

theorem pacing_none : pacing none = .ok 0 := rfl

theorem run_of_course {delay : Float} {shots : List Snapshot} {ending : Ending}
    (idle : engine.isRunning = false) (accepted : Dialect.violation? script = none)
    (paced : pacing speed = .ok delay)
    (course : Course engine.limits cancels .started (.top (numberLines 0 (Text.lines script)))
      shots ending) :
    Concludes (Text.lines script) shots ending (engine.run script speed cancels) := by
  let running : Engine :=
    { engine.cleared with phase := .running, delay, machine := .started }
  have left : Concludes (Text.lines script) ([].reverse ++ shots) ending
      (drive cancels engine (.unstarted script speed) []) :=
    drive_of_course course running rfl rfl rfl rfl (next_of_accepted idle accepted paced)
  exact left

theorem run_ok_of_course {shots : List Snapshot} {ending : Ending} {outcome : Outcome}
    (idle : engine.isRunning = false) (accepted : Dialect.violation? script = none)
    (course : Course engine.limits cancels .started (.top (numberLines 0 (Text.lines script)))
      shots ending)
    (ends : ending.outcome (Text.lines script) = .ok outcome) :
    ∃ ended, engine.run script none cancels =
      (ended, .ok ⟨outcome, ending.allShots (Text.lines script) shots,
        (ending.machineAfter (Text.lines script)).log⟩) := by
  rcases run_of_course idle accepted pacing_none course with ⟨_, _, answered⟩
  refine ⟨(engine.run script none cancels).1, Prod.ext rfl ?_⟩
  rw [answered, Ending.answer, ends]

/-- A run that returns was rejected at once, or has gone a course that did not break. -/
theorem run_cases {ended : Engine} {result : RunResult}
    (returned : engine.run script speed cancels = (ended, .ok result)) :
    (∃ rule, Dialect.violation? script = some rule ∧
      result = ⟨.rejected rule, [], [.failed (Outcome.rejected rule).message]⟩ ∧
      ended.phase = .failed ∧
      ended.machine = Machine.initial.record (.failed (Outcome.rejected rule).message)) ∨
    (Dialect.violation? script = none ∧ ∃ shots ending,
      Course engine.limits cancels .started (.top (numberLines 0 (Text.lines script)))
        shots ending ∧
      Concludes (Text.lines script) shots ending (ended, .ok result)) := by
  cases busy : engine.isRunning with
  | true => simp [run_of_running busy] at returned
  | false =>
    cases accepted : Dialect.violation? script with
    | some rule =>
      rw [run_of_violation busy accepted] at returned
      simp only [Prod.mk.injEq, Except.ok.injEq] at returned
      rcases returned with ⟨rfl, rfl⟩
      exact .inl ⟨rule, rfl, rfl, rfl, rfl⟩
    | none =>
      cases paced : pacing speed with
      | error cause => simp [run_of_unpaced busy accepted paced] at returned
      | ok delay =>
        rcases Course.total engine.limits cancels .started
          (.top (numberLines 0 (Text.lines script))) with ⟨shots, ending, course⟩
        have concludes := run_of_course busy accepted paced course
        rw [returned] at concludes
        exact .inr ⟨rfl, shots, ending, course, concludes⟩

/-- A run that returns was begun on an engine that was not at work. -/
theorem idle_of_run {ended : Engine} {result : RunResult}
    (returned : engine.run script speed cancels = (ended, .ok result)) :
    engine.isRunning = false := by
  cases busy : engine.isRunning with
  | false => rfl
  | true => simp [run_of_running busy] at returned

/-- Whether a run is begun does not hang on its observer: if one sees the run of an accepted script
return, then every other one sees the script go its course. -/
theorem concludes_of_course {ended : Engine} {result : RunResult} {other : Snapshot → Bool}
    {shots : List Snapshot} {ending : Ending}
    (returned : engine.run script speed cancels = (ended, .ok result))
    (accepted : Dialect.violation? script = none)
    (course : Course engine.limits other .started (.top (numberLines 0 (Text.lines script)))
      shots ending) :
    Concludes (Text.lines script) shots ending (engine.run script speed other) := by
  have idle := idle_of_run returned
  cases paced : pacing speed with
  | error cause => simp [run_of_unpaced idle accepted paced] at returned
  | ok delay => exact run_of_course idle accepted paced course

end Engine

end StepScript

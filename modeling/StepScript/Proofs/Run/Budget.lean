import StepScript.Proofs.Engine.Stream
import StepScript.Proofs.Run.Position
import StepScript.Proofs.Service.Request

/-!
# The budget of a run

The count of steps alone does not bound a run, because a loop with an empty body goes round without
a visit.  But a loop is entered by a visit, and what its rounds may show is known then: each visit
pays for one snapshot and for all the binds and increments of a loop (`Limits.share`).  A control
point keeps in reserve what its loop has not shown yet, and every step pays for what it shows out of
the reserve or by a visit (`step_spends`).
-/

namespace StepScript

namespace Limits

/-- How many visits the limits allow. -/
def visits (limits : Limits) : Nat :=
  limits.maxSteps.toNat

/-- How many rounds of one loop the limits allow. -/
def rounds (limits : Limits) : Nat :=
  limits.maxLoop.toNat

/-- How many snapshots a visit pays for: its own, and two for each round of a loop. -/
def share (limits : Limits) : Nat :=
  2 * limits.rounds + 1

/-- How many snapshots a run takes at most, its last one included. -/
def budget (limits : Limits) : Nat :=
  limits.visits * limits.share + 1

end Limits

/-- How many snapshots the loop of a control point may still show. -/
def Control.reserve (limits : Limits) : Control → Nat
  | .top _ => 0
  | .test frame _ _ => 2 * (limits.rounds - frame.iterations)
  | .body frame _ _ => 2 * (limits.rounds - frame.iterations) + 1

theorem Place.reserve_control (place : Place) (limits : Limits) (lines others : List Line) :
    (place.control lines).reserve limits = (place.control others).reserve limits := by
  cases place <;> rfl

/-- The visits of a machine have paid for its snapshots and for a reserve, and each visit has left
one entry in the log. -/
structure Machine.Spends (limits : Limits) (reserve : Nat) (machine : Machine) : Prop where
  steps_le : machine.steps ≤ limits.visits
  taken_le : machine.taken + reserve ≤ machine.steps * limits.share
  entries_eq : machine.entries.length = machine.steps + 1

/-- What a step leaves behind: a machine that has paid for the next control point and, at a change,
for the snapshot that is taken of it.  A fault may come with one visit too many. -/
def Step.Spends (limits : Limits) : Step → Prop
  | .go none machine control => machine.Spends limits (control.reserve limits)
  | .go (some _) machine control => machine.Spends limits (control.reserve limits + 1)
  | .finish machine | .breakdown machine _ => machine.Spends limits 0
  | .fault machine _ => machine.entries.length ≤ limits.visits + 2

namespace Machine.Spends

variable {limits : Limits} {reserve less : Nat} {machine : Machine}

theorem weaken (spends : machine.Spends limits reserve) (smaller : less ≤ reserve) :
    machine.Spends limits less :=
  ⟨spends.steps_le, (Nat.add_le_add_left smaller _).trans spends.taken_le, spends.entries_eq⟩

theorem visit (spends : machine.Spends limits reserve) (inBody : Bool) (line : Line)
    (within : ¬Step.Exhausted limits machine) :
    (machine.visit inBody line).Spends limits (reserve + limits.share) := by
  constructor
  · show machine.steps + 1 ≤ limits.maxSteps.toNat
    unfold Step.Exhausted at within
    omega
  · show machine.taken + (reserve + limits.share) ≤ (machine.steps + 1) * limits.share
    have paid := spends.taken_le
    rw [Nat.succ_mul]
    omega
  · exact congrArg (· + 1) spends.entries_eq

/-- The consequence of a condition is visited or passed, and either pays for what was kept. -/
theorem arrive (spends : machine.Spends limits reserve) (holds : Bool) (place : Place) (line : Line)
    (within : holds = true → ¬Step.Exhausted limits machine) :
    (machine.arrive holds place line).Spends limits reserve := by
  cases holds with
  | true => exact (spends.visit _ line (within rfl)).weaken (Nat.le_add_right _ _)
  | false => exact spends

/-- A snapshot is taken out of the reserve. -/
theorem counted (spends : machine.Spends limits (reserve + 1)) :
    { machine with taken := machine.taken + 1 }.Spends limits reserve := by
  refine ⟨spends.steps_le, ?_, spends.entries_eq⟩
  show machine.taken + 1 + reserve ≤ machine.steps * limits.share
  have paid := spends.taken_le
  omega

/-- Writing a variable costs nothing, whatever constants are known. -/
theorem written (spends : machine.Spends limits reserve) (name : Text) (value : Value)
    (constants : List (Text × Nat)) :
    ({ machine with constants }.written name value).Spends limits reserve :=
  ⟨spends.steps_le, spends.taken_le, spends.entries_eq⟩

theorem entries_le (spends : machine.Spends limits reserve) :
    machine.entries.length ≤ limits.visits + 1 := by
  have steps := spends.steps_le
  have entries := spends.entries_eq
  omega

/-- One visit more than the limits allow leaves one entry more. -/
theorem visit_entries_le (spends : machine.Spends limits reserve) (inBody : Bool) (line : Line) :
    (machine.visit inBody line).entries.length ≤ limits.visits + 2 :=
  Nat.succ_le_succ spends.entries_le

end Machine.Spends

variable {limits : Limits} {machine : Machine} {control : Control}

namespace Place

variable {place : Place} {line : Line} {more : List Line}

/-- A visit pays for a snapshot, in front of whatever lines the place is then. -/
theorem spends_visit (rest : List Line)
    (spends : machine.Spends limits ((place.control (line :: more)).reserve limits))
    (within : ¬Step.Exhausted limits machine) :
    (machine.visit place.inBody line).Spends limits
      ((place.control rest).reserve limits + 1) := by
  rw [place.reserve_control limits rest (line :: more)]
  exact (spends.visit _ line within).weaken (Nat.add_le_add_left (Nat.le_add_left 1 _) _)

/-- A visit that is followed by no snapshot pays for less than it could. -/
theorem spends_visit_silently (rest : List Line)
    (spends : machine.Spends limits ((place.control (line :: more)).reserve limits))
    (within : ¬Step.Exhausted limits machine) :
    (machine.visit place.inBody line).Spends limits ((place.control rest).reserve limits) :=
  (spends_visit rest spends within).weaken (Nat.le_add_right _ 1)

end Place

/-- Every step pays for what it shows, by its visits or out of the reserve. -/
theorem step_spends {result : Step} (spends : machine.Spends limits (control.reserve limits))
    (steps : step limits machine control = result) : result.Spends limits := by
  cases Step.rule_of_step steps with
  | finish => exact spends
  | unreadable => exact spends.weaken (Nat.zero_le _)
  | @silent place line more =>
    rw [place.reserve_control limits (line :: more) more] at spends
    exact spends
  | exhausted | loopUnclosed | loopFault | declarationFault | assignmentFault | conditionFault =>
    exact spends.visit_entries_le _ _
  | ignored classified ignored within =>
    exact Place.spends_visit_silently _ spends within
  | declared classified within declared =>
    rcases Machine.declare_ok declared with ⟨value, constants, _, rfl⟩
    exact (Place.spends_visit _ spends within).written _ _ _
  | declarationBreakdown classified within =>
    exact (spends.visit _ _ within).weaken (Nat.zero_le _)
  | @assigned place line more name expression index changed classified within assigned =>
    rcases Machine.assign_ok assigned with ⟨value, rfl⟩
    exact (Place.spends_visit _ spends within).written _ _ machine.constants
  | conditionLast judged => exact Place.spends_visit_silently _ spends judged.within
  | consequenceUnreadable judged =>
    exact (spends.visit _ _ judged.within).weaken (Nat.zero_le _)
  | consequenceExhausted judged | consequenceFault judged =>
    exact (spends.visit _ _ judged.within).visit_entries_le _ _
  | @consequenceAssigned place line next more rest condition name expression index value changed
      judged consequence holds withinNext assigned =>
    rcases Machine.assign_ok assigned with ⟨value, rfl⟩
    have first := Place.spends_visit_silently (next :: rest) spends judged.within
    exact (Place.spends_visit rest first withinNext).written _ _
      ((machine.visit place.inBody line).visit place.inBody next).constants
  | consequencePassed judged consequence withinNext =>
    exact (Place.spends_visit_silently _ spends judged.within).arrive _ _ _ withinNext
  | consequenceBlock judged consequence withinNext =>
    exact ((spends.visit false _ judged.within).weaken (Nat.zero_le _)).arrive _ .top _ withinNext
  | consequenceUnclosed judged consequence withinNext =>
    exact Nat.le_succ_of_le
      ((spends.visit false _ judged.within).arrive _ .top _ withinNext).entries_le
  | @loopEntered line more header block entered frame value classified within extracted started =>
    rcases Machine.enterLoop_ok started with ⟨rfl, rfl⟩
    have rounds : 2 * limits.rounds ≤ 0 + limits.share := by
      unfold Limits.share
      omega
    have paid := (spends.visit false line within).weaken rounds
    exact ⟨paid.steps_le, paid.taken_le, paid.entries_eq⟩
  | testFault | roundsExhausted | roundFault | incrementFault =>
    exact Nat.le_succ_of_le spends.entries_le
  | loopLeft =>
    have left := spends.weaken (Nat.zero_le _)
    exact ⟨left.steps_le, left.taken_le, left.entries_eq⟩
  | @roundBegun frame value after bound goesOn within begun =>
    rw [Machine.beginRound_ok begun]
    -- The round that begins is one of those that the limit allows.
    have allowed : frame.iterations + 1 ≤ limits.rounds := by
      unfold Limits.rounds
      omega
    have shows : 2 * (limits.rounds - (frame.iterations + 1)) + 1 + 1 ≤
        2 * (limits.rounds - frame.iterations) := by omega
    have paid := spends.weaken shows
    exact ⟨paid.steps_le, paid.taken_le, paid.entries_eq⟩
  | incremented ended =>
    rw [Machine.endRound_ok ended]
    exact ⟨spends.steps_le, spends.taken_le, spends.entries_eq⟩

theorem Machine.spends_started (limits : Limits) : Machine.started.Spends limits 0 :=
  ⟨Nat.zero_le _, Nat.zero_le _, rfl⟩

/-- The changes that a course shows are paid for, and its log holds an entry for each visit. -/
theorem Course.within {cancels : Snapshot → Bool} {shots : List Snapshot} {ending : Ending}
    (course : Course limits cancels machine control shots ending)
    (spends : machine.Spends limits (control.reserve limits)) :
    machine.taken + shots.length ≤ limits.visits * limits.share ∧
      ending.machine.entries.length ≤ limits.visits + 2 := by
  have taken_le : ∀ {reserve : Nat} {found : Machine}, found.Spends limits reserve →
      found.taken ≤ limits.visits * limits.share := by
    intro reserve found spends
    calc found.taken ≤ found.taken + reserve := Nat.le_add_right _ _
      _ ≤ found.steps * limits.share := spends.taken_le
      _ ≤ limits.visits * limits.share := Nat.mul_le_mul_right _ spends.steps_le
  induction course with
  | @silent machine after control reached shots ending goes rest ih =>
    have taken : after.taken = machine.taken := step_taken goes
    exact taken ▸ ih (step_spends spends goes)
  | @shown machine changed control reached event shots ending goes kept rest ih =>
    have taken : changed.taken = machine.taken := step_taken goes
    have paid : changed.Spends limits (reached.reserve limits + 1) := step_spends spends goes
    rcases ih paid.counted with ⟨shown, entries⟩
    have shown : changed.taken + 1 + shots.length ≤ limits.visits * limits.share := shown
    refine ⟨?_, entries⟩
    rw [List.length_cons]
    omega
  | @cancelled machine changed control reached event goes stopped =>
    have taken : changed.taken = machine.taken := step_taken goes
    have paid : changed.Spends limits (reached.reserve limits + 1) := step_spends spends goes
    have counted : changed.taken + 1 ≤ limits.visits * limits.share := taken_le paid.counted
    exact ⟨taken ▸ counted, Nat.le_succ_of_le paid.entries_le⟩
  | finished ends | broken ends =>
    have left := step_spends spends ends
    exact ⟨taken_le spends, Nat.le_succ_of_le left.entries_le⟩
  | faulted fails => exact ⟨taken_le spends, step_spends spends fails⟩

namespace Engine

variable {engine : Engine} {script : Text} {speed : Option Value}

/-- A stream ends when it has given the changes of its course and its last snapshot. -/
theorem take_of_course {cancels : Snapshot → Bool} {lines : List Text} {shots : List Snapshot}
    {ending : Ending} (course : Course limits cancels machine control shots ending)
    (unstopped : ∀ shown ∈ shots, cancels shown = false) :
    ∀ (advancing : Engine) {engine : Engine} {stream : Stream} {count : Nat},
      advancing.limits = limits → advancing.machine = machine →
      advancing.cancelRequested = false →
      engine.next stream = advancing.advance lines control →
      shots.length + 1 < count → engine.take stream count = none := by
  induction course with
  | @silent machine after control reached shots ending goes rest ih =>
    rintro advancing engine stream count rfl rfl wanted next beyond
    rw [advance_of_silent goes] at next
    exact ih unstopped { advancing with machine := after } rfl rfl wanted next beyond
  | @shown machine changed control reached event shots ending goes kept rest ih =>
    rintro advancing engine stream count rfl rfl wanted next beyond
    rw [advance_of_change goes] at next
    obtain ⟨count, rfl⟩ : ∃ left, count = left + 1 := ⟨count - 1, by omega⟩
    let suspended : Engine :=
      { advancing with phase := .running, machine := (changed.showing event).1 }
    have resumed : suspended.next (.suspended lines reached) = suspended.advance lines reached :=
      if_neg (by simp [suspended, wanted])
    have later := ih (fun shown member => unstopped shown (List.mem_cons_of_mem _ member)) suspended
      rfl rfl wanted resumed (Nat.lt_of_succ_lt_succ beyond)
    rw [take, next]
    simp [suspended, later]
  | cancelled goes stopped => simp [unstopped _ (List.mem_singleton_self _)] at stopped
  | finished ends =>
    rintro advancing engine stream count rfl rfl wanted next beyond
    obtain ⟨count, rfl⟩ : ∃ left, count = left + 2 := ⟨count - 2, by simp at beyond; omega⟩
    rw [take, next, advance_of_finish ends]
    rfl
  | faulted fails =>
    rintro advancing engine stream count rfl rfl wanted next beyond
    obtain ⟨count, rfl⟩ : ∃ left, count = left + 2 := ⟨count - 2, by simp at beyond; omega⟩
    rw [take, next, advance_of_fault fails]
    rfl
  | broken breaks =>
    rintro advancing engine stream count rfl rfl wanted next beyond
    obtain ⟨count, rfl⟩ : ∃ left, count = left + 1 := ⟨count - 1, by omega⟩
    rw [take, next, advance_of_breakdown breaks]

/-- What the limits allow a script on an engine: its stream ends, with an outcome or an
interruption, after at most so many snapshots, and the log that it leaves holds an entry for each
visit, for one visit too many, for the start and for the end.  A run shows and logs no more. -/
structure WithinBudget (engine : Engine) (script : Text) (speed : Option Value) : Prop where
  stream_ends : ∃ shots left rest, shots.length ≤ engine.limits.budget ∧
    engine.take (.unstarted script speed) shots.length = some (shots, left, rest) ∧
    (∀ shown more, (left.next rest).2 ≠ .snapshot shown more) ∧
    (left.next rest).1.machine.log.length ≤ engine.limits.visits + 3
  run_ends : ∀ ended result, engine.run script speed (fun _ => false) = (ended, .ok result) →
    result.snapshots.length ≤ engine.limits.budget ∧
      result.log.length ≤ engine.limits.visits + 3

end Engine

theorem Ending.log_machineAfter_le (lines : List Text) (ending : Ending) :
    (ending.machineAfter lines).log.length ≤ ending.machine.entries.length + 1 := by
  rw [Machine.log, List.length_reverse]
  cases ending with
  | finished | faulted => exact Nat.le_refl _
  | broken | cancelled => exact Nat.le_succ _

theorem Ending.length_allShots_le (lines : List Text) (shots : List Snapshot) (ending : Ending) :
    (ending.allShots lines shots).length ≤ shots.length + 1 := by
  rw [Ending.allShots, List.length_append]
  cases ending.conclusion? lines <;> simp

namespace Engine

variable {engine : Engine} {script : Text} {speed : Option Value}

theorem stream_ends_of_take (ended : engine.take (.unstarted script speed)
      (engine.limits.budget + 1) = none)
    (log : (engine.run script speed fun _ => false).1.machine.log.length ≤
      engine.limits.visits + 3) :
    ∃ shots left rest, shots.length ≤ engine.limits.budget ∧
      engine.take (.unstarted script speed) shots.length = some (shots, left, rest) ∧
      (∀ shown more, (left.next rest).2 ≠ .snapshot shown more) ∧
      (left.next rest).1.machine.log.length ≤ engine.limits.visits + 3 := by
  rcases ends_of_take ended with ⟨shots, left, rest, fewer, taken, ends⟩
  rw [run, drive_of_take taken, engine_of_drive ends] at log
  exact ⟨shots, left, rest, fewer, taken, ends, log⟩

theorem withinBudget_of_violation {rule : Dialect.Rule} (idle : engine.isRunning = false)
    (found : Dialect.violation? script = some rule) : WithinBudget engine script speed := by
  have ended : engine.run script speed (fun _ => false) = _ := run_of_violation idle found
  constructor
  · refine stream_ends_of_take ?_ ?_
    · rw [take, next_of_violation idle found]
    · rw [ended]
      exact Nat.le_add_left 1 _
  · intro left result returned
    rw [ended] at returned
    rw [← Except.ok.inj (Prod.mk.inj returned).2]
    exact ⟨Nat.zero_le _, Nat.le_add_left 1 _⟩

theorem withinBudget_of_unpaced {cause : Breakdown} (idle : engine.isRunning = false)
    (accepted : Dialect.violation? script = none) (unpaced : pacing speed = .error cause) :
    WithinBudget engine script speed := by
  have stopped : engine.run script speed (fun _ => false) = _ :=
    run_of_unpaced idle accepted unpaced
  constructor
  · refine stream_ends_of_take ?_ ?_
    · rw [take, next_of_unpaced idle accepted unpaced]
    · rw [stopped]
      exact Nat.zero_le _
  · intro left result returned
    simp [stopped] at returned

theorem withinBudget_of_accepted {delay : Float} (idle : engine.isRunning = false)
    (accepted : Dialect.violation? script = none) (paced : pacing speed = .ok delay) :
    WithinBudget engine script speed := by
  rcases Course.total engine.limits (fun _ => false) .started
    (.top (numberLines 0 (Text.lines script))) with ⟨shots, ending, course⟩
  rcases course.within (Machine.spends_started engine.limits) with ⟨shown, entries⟩
  have shown : 0 + shots.length ≤ engine.limits.visits * engine.limits.share := shown
  rcases run_of_course idle accepted paced course with ⟨_, machine, answer⟩
  have log := ending.log_machineAfter_le (Text.lines script)
  constructor
  · refine stream_ends_of_take ?_ ?_
    · refine take_of_course course (fun _ _ => rfl)
        { engine.cleared with phase := .running, delay, machine := .started } rfl rfl rfl
        (next_of_accepted idle accepted paced) ?_
      unfold Limits.budget
      omega
    · rw [machine]
      omega
  · intro ended result returned
    rw [returned] at answer
    rcases Ending.of_answer answer.symm with ⟨_, snapshots, log_eq⟩
    have all := ending.length_allShots_le (Text.lines script) shots
    rw [snapshots, log_eq]
    unfold Limits.budget
    omega

theorem withinBudget (idle : engine.isRunning = false) (script : Text) (speed : Option Value) :
    WithinBudget engine script speed := by
  cases accepted : Dialect.violation? script with
  | some rule => exact withinBudget_of_violation idle accepted
  | none =>
    cases paced : pacing speed with
    | error cause => exact withinBudget_of_unpaced idle accepted paced
    | ok delay => exact withinBudget_of_accepted idle accepted paced

end Engine

theorem Limits.budget_le {limits larger : Limits} (steps : limits.maxSteps ≤ larger.maxSteps)
    (rounds : limits.maxLoop ≤ larger.maxLoop) : limits.budget ≤ larger.budget := by
  have visits : limits.visits ≤ larger.visits := Int.toNat_le_toNat steps
  have share : limits.share ≤ larger.share :=
    Nat.succ_le_succ (Nat.mul_le_mul_left 2 (Int.toNat_le_toNat rounds))
  exact Nat.succ_le_succ (Nat.mul_le_mul visits share)

/-- A request to run a script is answered within the budget of the standard limits. -/
theorem Service.length_snapshots_le (script : Text) (settings : Json) (scriptId : Option Int)
    (store : Store) :
    (Service.run script settings scriptId store).2.snapshots.length ≤ Limits.standard.budget := by
  rw [RunAnswer.snapshots, result_run]
  cases executed : execute script settings with
  | error cause => exact Nat.zero_le _
  | ok result =>
    rcases execute_ok executed with ⟨limits, ended, read, returned⟩
    rcases Settings.limits_le read with ⟨steps, rounds⟩
    have idle : (Engine.withLimits limits).isRunning = false := rfl
    calc result.snapshots.length
        ≤ (Engine.withLimits limits).limits.budget :=
          ((Engine.withinBudget idle script none).run_ends ended result returned).1
      _ ≤ Limits.standard.budget := Limits.budget_le steps rounds

/-- Every stream on an engine that is not at work ends within the budget of the limits, and so does
every run; a request is answered with at most 20010001 snapshots. -/
theorem Engine.run_withinBudget (script : Text) :
    (∀ (engine : Engine) (speed : Option Value), engine.isRunning = false →
      engine.WithinBudget script speed) ∧
    ∀ (settings : Json) (scriptId : Option Int) (store : Store),
      (Service.run script settings scriptId store).2.snapshots.length ≤ 10000 * 2001 + 1 :=
  ⟨fun _ speed idle => withinBudget idle script speed, Service.length_snapshots_le script⟩

/-- Two visits and three rounds allow fifteen snapshots, also of a loop that goes round without a
visit. -/
theorem Engine.run_withinBudget_of_emptyLoop :
    (withLimits ⟨2, 3⟩).isRunning = false ∧ (withLimits ⟨2, 3⟩).limits.budget = 15 ∧
      (withLimits ⟨2, 3⟩).WithinBudget "for (let i = 0; i < 9; i++) \x7b \x7d".toList none :=
  ⟨rfl, rfl, (run_withinBudget _).1 _ none rfl⟩

end StepScript

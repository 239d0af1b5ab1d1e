import StepScript.Proofs.Engine.Observation
import StepScript.Proofs.Padding.Line
import StepScript.Proofs.Run.Mutation
import StepScript.Proofs.Run.Rounds

/-!
# The array that is shown

Which variable a change writes can be told from its snapshot: a statement names it in the log, and a
turn of a loop stands at the header (`Snapshot.written?`).  The machine keeps the name of the array
written last apart from the variables, and every step keeps the name as the snapshots tell it
(`step_writes`).  So each snapshot shows the array that was written last, as the variables hold it
(`Engine.run_viewsArray`).
-/

namespace StepScript

/-! ## What a snapshot tells of a write -/

/-- The variable that a statement writes, if it writes one. -/
def Statement.target? : Statement → Option Text
  | .declaration name _ _ | .assignment name _ _ => some name
  | _ => none

/-- The variable that a visited statement writes, read off the log. -/
def LogEntry.target? : LogEntry → Option Text
  | .line _ text | .body text => (classify text).toOption.bind Statement.target?
  | _ => none

/-- The counter of the loop header on a line. -/
def counterAt? (lines : List Text) (index : Nat) : Option Text :=
  match lines[index]?.map classify with
  | some (.ok (.loop header)) => some header.counter
  | _ => none

namespace Snapshot

/-- The variable that a change writes: the target of the statement that the newest entry of the log
shows, or the counter of the loop whose header stands on the line. -/
def written? (lines : List Text) (shown : Snapshot) : Option Text :=
  match shown.event with
  | .declare | .assign | .condition => shown.entries.head?.bind LogEntry.target?
  | .bind | .increment => shown.line.bind (counterAt? lines)
  | .failed | .completed => none

/-- The variable that a change writes, if the written value is an array. -/
def writtenArray? (lines : List Text) (shown : Snapshot) : Option Text :=
  (shown.written? lines).filter fun name => (shown.value? name).any Value.isArray

/-- The variable to which some snapshots, oldest first, show an array written last. -/
def designated? (lines : List Text) (shots : List Snapshot) : Option Text :=
  (shots.filterMap (writtenArray? lines)).getLast?

/-- What is to be shown as the array, once an array was written last to a given variable. -/
inductive ShowsArray (shown : Snapshot) : Option Text → Prop where
  | unwritten (hidden : shown.array = none) : ShowsArray shown none
  | overwritten {name : Text} (other : ∀ cells, shown.value? name ≠ some (.array cells))
      (hidden : shown.array = none) : ShowsArray shown (some name)
  | held {name : Text} {cells : List Value} (holds : shown.value? name = some (.array cells))
      (view : shown.array = some (name, cells)) : ShowsArray shown (some name)

/-- A snapshot and those before it: a change binds the variable that the snapshot tells, and the
snapshot shows the array that was written last. -/
structure ViewsArray (lines : List Text) (before : List Snapshot) (shown : Snapshot) : Prop where
  writes : shown.event.endsRun = false → ∃ name value, shown.written? lines = some name ∧
    shown.environment = Environment.bind name value (lastEnvironment before)
  view : shown.ShowsArray (designated? lines (before ++ [shown]))

variable {lines : List Text} {shots : List Snapshot} {shown : Snapshot}

theorem designated?_concat (lines : List Text) (shots : List Snapshot) (shown : Snapshot) :
    designated? lines (shots ++ [shown]) =
      (shown.writtenArray? lines).or (designated? lines shots) := by
  cases written : shown.writtenArray? lines <;> simp [designated?, written]

theorem writtenArray?_of_endsRun (lines : List Text) (ends : shown.event.endsRun = true) :
    shown.writtenArray? lines = none := by
  unfold writtenArray? written?
  cases event : shown.event <;> simp_all [Event.endsRun]

/-- A change that has bound a variable has written an array exactly if the value is one. -/
theorem writtenArray?_of_bind {name : Text} {value : Value} {found : Environment}
    (written : shown.written? lines = some name)
    (bound : shown.environment = Environment.bind name value found) :
    shown.writtenArray? lines = if value.isArray then some name else none := by
  have holds : shown.value? name = some value := by
    unfold value?
    rw [bound, Environment.find?_bind_self]
  rw [writtenArray?, written]
  cases value <;> simp [Option.filter, holds, Value.isArray]

/-- What is shown as the array is looked up in the variables that are shown. -/
theorem showsArray_of_eq {name? : Option Text}
    (same : shown.array = name?.bind fun name =>
      ((shown.value? name).bind Value.cells?).map fun cells => (name, cells)) :
    shown.ShowsArray name? := by
  cases name? with
  | none => exact .unwritten same
  | some name =>
    cases found : (shown.value? name).bind Value.cells? with
    | none =>
      have hidden : shown.array = none := by
        rw [same, Option.bind_some, found, Option.map_none]
      apply ShowsArray.overwritten _ hidden
      intro cells holds
      simp [holds, Value.cells?] at found
    | some cells =>
      have view : shown.array = some (name, cells) := by
        rw [same, Option.bind_some, found, Option.map_some]
      obtain ⟨value, holds, array⟩ := Option.bind_eq_some_iff.mp found
      cases value with
      | array held =>
        cases array
        exact .held holds view
      | number | boolean => cases array

end Snapshot

theorem Machine.shownArray?_eq (machine : Machine) :
    machine.shownArray? = machine.arrayName.bind fun name =>
      ((Environment.find? name machine.environment).bind Value.cells?).map
        fun cells => (name, cells) := by
  unfold shownArray?
  cases machine.arrayName with
  | none => rfl
  | some name =>
    cases found : Environment.find? name machine.environment with
    | none => simp [found]
    | some value => cases value <;> simp [found, Value.cells?]

/-! ## Visits and headers -/

/-- The blanks around a statement that writes do not change what it says. -/
theorem classify_trim_of_target {line name : Text} {found : Statement}
    (classified : classify line = .ok found) (writes : found.target? = some name) :
    classify (Text.trim line) = .ok found := by
  refine classify_of_strip_eq (stripStatement_trim line) classified fun other essence => ?_
  cases found <;> cases other <;> simp_all [Statement.essence, Statement.target?]

theorem Machine.target?_visit {line : Line} {name : Text} {found : Statement} (inBody : Bool)
    (machine : Machine) (classified : classify line.text = .ok found)
    (writes : found.target? = some name) :
    (machine.visit inBody line).entries.head?.bind LogEntry.target? = some name := by
  have trimmed := classify_trim_of_target classified writes
  cases inBody <;>
    simp [visit, LogEntry.target?, trimmed, Except.toOption, writes]

theorem counterAt?_of_headerAt {lines : List Text} {index : Nat} {header : LoopHeader}
    (stands : HeaderAt lines index header) : counterAt? lines index = some header.counter := by
  obtain ⟨text, found, classified⟩ := stands
  simp [counterAt?, found, classified]

theorem Snapshot.written?_of_turn {lines : List Text} {header : LoopHeader} {frame : Frame}
    {shown : Snapshot} (holds : frame.Holds lines header) (turn : shown.event.isTurn = true)
    (stands : shown.line = some frame.header) : shown.written? lines = some frame.counter := by
  have counter := counterAt?_of_headerAt holds.standsAt
  unfold written?
  cases event : shown.event <;> simp_all [Event.isTurn, holds.counter]

namespace Control

/-- The frame of the loop in which a control point lies. -/
def frame? : Control → Option Frame
  | .top _ => none
  | .test frame _ _ | .body frame _ _ => some frame

/-- A control point in a loop lies in that of a header of the script. -/
def Headed (lines : List Text) (control : Control) : Prop :=
  ∀ frame, control.frame? = some frame → ∃ header, frame.Holds lines header

end Control

/-- At a place the frame does not hang on the lines that are left. -/
theorem Place.headed {lines : List Text} {place : Place} {more rest : List Line}
    (headed : (place.control more).Headed lines) : (place.control rest).Headed lines := by
  cases place with
  | top => exact headed
  | body frame after => exact headed

section Step

variable {limits : Limits} {lines : List Text} {machine : Machine} {control : Control}

/-- Every step leads to a loop of the script or out of loops. -/
theorem step_headed {event : Option Event} {after : Machine} {reached : Control}
    (stands : control.Stands lines machine) (headed : control.Headed lines)
    (goes : step limits machine control = .go event after reached) : reached.Headed lines := by
  cases Step.rule_of_step goes with
  | silent | ignored | declared | assigned | conditionLast | consequenceAssigned |
      consequencePassed => exact Place.headed headed
  | consequenceBlock | loopLeft =>
    intro frame framed
    cases framed
  | @loopEntered line more header block _ frame value classified within extracted started =>
    obtain ⟨rfl, _⟩ := Machine.enterLoop_ok started
    intro other framed
    cases framed
    exact ⟨header, Machine.frameOf_holds block value stands.1 classified⟩
  | @roundBegun frame value after bound goesOn within begun =>
    intro other framed
    cases framed
    obtain ⟨header, holds⟩ := headed frame rfl
    exact ⟨header, holds.countRound machine⟩
  | @incremented frame after changed value ended =>
    intro other framed
    cases framed
    exact headed frame rfl

/-! ## Steps and writes -/

/-- What a step does to the array that is designated: a change writes the variable that its
snapshot tells, and designates it if the value is an array. -/
def Step.Writes (lines : List Text) (machine : Machine) : Step → Prop
  | .go (some event) changed _ =>
    ∃ name value, (changed.showing event).2.written? lines = some name ∧
      changed.environment = Environment.bind name value machine.environment ∧
      changed.arrayName = if value.isArray then some name else machine.arrayName
  | .go none after _ | .finish after | .fault after _ | .breakdown after _ =>
    after.environment = machine.environment ∧ after.arrayName = machine.arrayName

@[simp] theorem Machine.arrive_arrayName (holds : Bool) (place : Place) (line : Line)
    (machine : Machine) : (machine.arrive holds place line).arrayName = machine.arrayName := by
  cases holds <;> rfl

theorem step_writes {result : Step} (headed : control.Headed lines)
    (steps : step limits machine control = result) : result.Writes lines machine := by
  cases Step.rule_of_step steps with
  | @declared place line more name expression keyword changed classified within declared =>
    obtain ⟨value, constants, _, rfl⟩ := Machine.declare_ok declared
    exact ⟨name, value, Machine.target?_visit place.inBody machine classified rfl, rfl, rfl⟩
  | @assigned place line more name expression index changed classified within assigned =>
    obtain ⟨value, rfl⟩ := Machine.assign_ok assigned
    exact ⟨name, value, Machine.target?_visit place.inBody machine classified rfl, rfl, rfl⟩
  | @consequenceAssigned place line next more rest condition name expression index truth changed
      judged consequence holds withinNext assigned =>
    obtain ⟨value, rfl⟩ := Machine.assign_ok assigned
    have named := Machine.target?_visit place.inBody (machine.visit place.inBody line) consequence
      rfl
    exact ⟨name, value, named, rfl, rfl⟩
  | @roundBegun frame value after bound goesOn within begun =>
    obtain ⟨header, holds⟩ := headed frame rfl
    rw [Machine.beginRound_ok begun]
    exact ⟨frame.counter, .number value, Snapshot.written?_of_turn holds rfl rfl, rfl, rfl⟩
  | @incremented frame after changed value ended =>
    obtain ⟨header, holds⟩ := headed frame rfl
    rw [Machine.endRound_ok ended]
    exact ⟨frame.counter, .number value, Snapshot.written?_of_turn holds rfl rfl, rfl, rfl⟩
  | loopEntered classified within extracted started =>
    rw [(Machine.enterLoop_ok started).2]
    exact ⟨rfl, rfl⟩
  | consequencePassed | consequenceBlock | consequenceUnclosed =>
    exact ⟨Machine.arrive_environment _ _ _ _, Machine.arrive_arrayName _ _ _ _⟩
  | _ => exact ⟨rfl, rfl⟩

end Step

/-! ## Runs -/

/-- A machine has noted the array that the snapshots so far designate, and holds the variables that
the last one shows. -/
structure Designates (lines : List Text) (seen : List Snapshot) (machine : Machine)
    (control : Control) : Prop where
  arrayName : machine.arrayName = Snapshot.designated? lines seen
  environment : machine.environment = Snapshot.lastEnvironment seen
  stands : control.Stands lines machine
  headed : control.Headed lines

theorem sustained_designates (limits : Limits) (lines : List Text) :
    Sustained limits lines (Designates lines) (Snapshot.ViewsArray lines) where
  begins :=
    { arrayName := rfl
      environment := rfl
      stands := Control.stands_started lines
      headed := fun frame framed => by cases framed }
  silent := by
    intro seen machine control after reached kept goes
    obtain ⟨environment, arrayName⟩ := step_writes kept.headed goes
    exact
      { arrayName := arrayName.trans kept.arrayName
        environment := environment.trans kept.environment
        stands := (step_stands kept.stands goes).1
        headed := step_headed kept.stands kept.headed goes }
  shown := by
    intro seen machine control event changed reached kept goes
    obtain ⟨name, value, written, bound, designated⟩ := step_writes kept.headed goes
    have array : (changed.showing event).2.writtenArray? lines =
        if value.isArray then some name else none := Snapshot.writtenArray?_of_bind written bound
    have named : changed.arrayName =
        Snapshot.designated? lines (seen ++ [(changed.showing event).2]) := by
      rw [Snapshot.designated?_concat, array, designated, ← kept.arrayName]
      cases value.isArray <;> rfl
    constructor
    · constructor
      · intro _
        exact ⟨name, value, written, kept.environment ▸ bound⟩
      · rw [← named]
        exact Snapshot.showsArray_of_eq (Machine.shownArray?_eq changed)
    · exact
        { arrayName := named
          environment := (Snapshot.lastEnvironment_concat seen (changed.showing event).2).symm
          stands := (step_stands kept.stands goes).1.counted _
          headed := step_headed kept.stands kept.headed goes }
  ends := by
    intro seen machine control shown kept halts closes
    constructor
    · intro goesOn
      simp [closes.endsRun] at goesOn
    · have left : (step limits machine control).machine.environment = machine.environment ∧
          (step limits machine control).machine.arrayName = machine.arrayName := by
        have writes : (step limits machine control).Writes lines machine :=
          step_writes kept.headed rfl
        cases result : step limits machine control with
        | go event after reached => exact absurd result (halts event after reached)
        | finish | fault | breakdown =>
          rw [result] at writes
          exact writes
      obtain ⟨environment, arrayName⟩ := left
      rw [Snapshot.designated?_concat, Snapshot.writtenArray?_of_endsRun lines closes.endsRun,
        Option.none_or, ← kept.arrayName, ← arrayName]
      apply Snapshot.showsArray_of_eq
      rw [closes.array, Machine.shownArray?_eq]
      unfold Snapshot.value?
      rw [closes.environment]

/-- Every snapshot that the observer of a run is handed shows the array that was written last, as
the variables hold it, and the run returns such snapshots only. -/
theorem Engine.run_viewsArray (engine : Engine) (script : Text) (speed : Option Value)
    (cancels : Snapshot → Bool) :
    (∀ shots, Observed cancels engine (.unstarted script speed) shots →
      Snapshot.Throughout (Snapshot.ViewsArray (Text.lines script)) shots) ∧
    ∀ ended result, engine.run script speed cancels = (ended, .ok result) →
      Snapshot.Throughout (Snapshot.ViewsArray (Text.lines script)) result.snapshots := by
  have sustained := sustained_designates engine.limits (Text.lines script)
  constructor
  · intro shots observed
    exact sustained.throughout_of_observed observed
  · intro ended result returned
    exact sustained.throughout_of_observed (observed_of_run returned)

/-- Two arrays, of which the one written last comes to hold a truth value. -/
theorem Engine.run_viewsArray_of_overwritten :
    ∃ ended result,
      new.run "let a = []\nlet b = []\nb = true".toList none (fun _ => false) =
        (ended, .ok result) ∧
      result.snapshots.map (fun shown => shown.array.map Prod.fst) =
        [some ['a'], some ['b'], none, none] ∧
      Snapshot.Throughout
        (Snapshot.ViewsArray (Text.lines "let a = []\nlet b = []\nb = true".toList))
        result.snapshots := by
  let first := (Machine.started.visit false ⟨0, "let a = []".toList⟩).written ['a'] (.array [])
  let second := ((first.showing .declare).1.visit false ⟨1, "let b = []".toList⟩).written ['b']
    (.array [])
  let third := ((second.showing .declare).1.visit false ⟨2, "b = true".toList⟩).written ['b']
    (.boolean true)
  have declares : step new.limits .started
      (.top (numberLines 0 (Text.lines "let a = []\nlet b = []\nb = true".toList))) =
      .go (some .declare) first (.top [⟨1, "let b = []".toList⟩, ⟨2, "b = true".toList⟩]) := by cbv
  have declaresToo : step new.limits (first.showing .declare).1
      (.top [⟨1, "let b = []".toList⟩, ⟨2, "b = true".toList⟩]) =
      .go (some .declare) second (.top [⟨2, "b = true".toList⟩]) := by cbv
  have classified : classify "b = true".toList = .ok (.assignment ['b'] "true".toList none) := by
    cbv
  have evaluated : evaluateText "true".toList
      ((second.showing .declare).1.visit false ⟨2, "b = true".toList⟩).environment =
      .ok (.boolean true) := rfl
  have assigned : ((second.showing .declare).1.visit false ⟨2, "b = true".toList⟩).assign ['b']
      "true".toList none = .ok third := by
    unfold Machine.assign
    rw [evaluated]
    rfl
  have within : ¬Step.Exhausted new.limits (second.showing .declare).1 :=
    show ¬(10000 : Int) < ((2 + 1 : Nat) : Int) by decide
  have assigns : step new.limits (second.showing .declare).1
      (Place.top.control [⟨2, "b = true".toList⟩]) = .go (some .assign) third (.top []) :=
    Step.step_of_rule (.assigned classified within assigned)
  have course : Course new.limits (fun _ => false) .started
      (.top (numberLines 0 (Text.lines "let a = []\nlet b = []\nb = true".toList)))
      [(first.showing .declare).2, (second.showing .declare).2, (third.showing .assign).2]
      (.finished (third.showing .assign).1) :=
    .shown declares rfl (.shown declaresToo rfl (.shown assigns rfl (.finished rfl)))
  have accepted :
      Dialect.violation? "let a = []\nlet b = []\nb = true".toList = none := by cbv
  have idle : new.isRunning = false := rfl
  obtain ⟨ended, returned⟩ := run_ok_of_course idle accepted course rfl
  exact ⟨ended, _, returned, rfl, (run_viewsArray new _ none _).2 ended _ returned⟩

end StepScript

import StepScript.Proofs.Run.Mutation
import StepScript.Proofs.Statement.Compound

/-!
# Constants

A constant is noted with the line that declares it, and no step takes a note back.  Every write to a
variable asks for the note, so that from the declaration on the constant changes only where the line
declares it again (`step_keeps`), and every other attempt to write it ends the run
(`Attempts.exists_step`).
-/

namespace StepScript

namespace Machine

variable {machine changed : Machine} {name other expression : Text} {value : Value} {line : Nat}

/-- A variable is written only if it is no constant, or by the line that declares the constant. -/
theorem bind_keeps {source : Option Nat}
    (bound : machine.bind other value source = .ok changed)
    (noted : machine.constantLine? name = some line) :
    changed.constantLine? name = some line ∧
      (Environment.find? name changed.environment = Environment.find? name machine.environment ∨
        source = some line) := by
  have written := bind_ok bound
  refine ⟨by rw [written]; exact noted, ?_⟩
  by_cases same : name = other
  · subst same
    right
    by_contra foreign
    have refused : machine.bind name value source = .error (.constReassigned name) :=
      if_pos (by simp [noted, Ne.symm foreign])
    cases bound.symm.trans refused
  · left
    rw [written]
    exact Environment.find?_bind_of_ne same value machine.environment

/-- Whatever is no declaration leaves a constant as it is. -/
theorem bind_none_keeps (bound : machine.bind other value none = .ok changed)
    (noted : machine.constantLine? name = some line) :
    changed.constantLine? name = some line ∧
      Environment.find? name changed.environment = Environment.find? name machine.environment := by
  rcases bind_keeps bound noted with ⟨keeps, unchanged | ⟨⟨⟩⟩⟩
  exact ⟨keeps, unchanged⟩

theorem noteConstant_keeps (noted : machine.constantLine? name = some line) (other : Text) :
    (machine.noteConstant other).constantLine? name = some line := by
  unfold noteConstant
  split
  · rw [constantLine?] at noted ⊢
    rw [List.lookup_append, noted]
    rfl
  · exact noted

theorem declare_keeps {keyword : Keyword}
    (declared : machine.declare other expression keyword = .ok changed)
    (noted : machine.constantLine? name = some line) :
    changed.constantLine? name = some line ∧
      (Environment.find? name changed.environment = Environment.find? name machine.environment ∨
        changed.cursor = some line) := by
  rcases exists_bind_of_declare declared with ⟨value, -, bound⟩
  have stands : changed.cursor = machine.cursor := by
    rcases declare_ok declared with ⟨_, _, -, rfl⟩
    rfl
  rw [stands]
  split at bound
  · rw [← noteConstant_environment other machine]
    exact bind_keeps bound (noteConstant_keeps noted other)
  · exact bind_keeps bound noted

theorem constantLine?_of_declare (stands : machine.cursor = some line)
    (declared : machine.declare name expression .constWord = .ok changed) :
    changed.constantLine? name = some line := by
  rcases exists_bind_of_declare declared with ⟨value, -, bound⟩
  rw [if_pos rfl] at bound
  cases known : machine.constantLine? name with
  | none =>
    have noted : (machine.noteConstant name).constantLine? name = some line := by
      simp only [noteConstant, known, stands]
      rw [constantLine?] at known ⊢
      simp [List.lookup_append, known]
    exact (bind_keeps bound noted).1
  | some first =>
    have noted := noteConstant_keeps known name
    obtain rfl : first = line := by
      by_contra other
      have refused : (machine.noteConstant name).bind name value machine.cursor =
          .error (.constReassigned name) := if_pos (by simp [noted, stands, other])
      cases bound.symm.trans refused
    exact (bind_keeps bound noted).1

end Machine

/-! ## Steps -/

/-- After a step, a constant is noted still, and its value is the same unless its line has declared
it again. -/
structure Keeps (name : Text) (line : Nat) (event : Option Event) (before after : Machine) :
    Prop where
  noted : after.constantLine? name = some line
  value : Environment.find? name after.environment = Environment.find? name before.environment ∨
    event = some .declare ∧ after.cursor = some line

/-- No step takes a constant back or gives it a value, but for the line that declares it. -/
theorem step_keeps {limits : Limits} {machine after : Machine} {control reached : Control}
    {event : Option Event} {name : Text} {line : Nat}
    (noted : machine.constantLine? name = some line)
    (goes : step limits machine control = .go event after reached) :
    Keeps name line event machine after := by
  cases Step.rule_of_step goes with
  | declared classified within declared =>
    rcases Machine.declare_keeps declared noted with ⟨keeps, unchanged | stands⟩
    · exact ⟨keeps, .inl unchanged⟩
    · exact ⟨keeps, .inr ⟨rfl, stands⟩⟩
  | assigned classified within assigned =>
    rcases Machine.exists_bind_of_assign assigned with ⟨value, bound⟩
    rcases Machine.bind_none_keeps bound noted with ⟨keeps, unchanged⟩
    exact ⟨keeps, .inl unchanged⟩
  | consequenceAssigned judged consequence holds withinNext assigned =>
    rcases Machine.exists_bind_of_assign assigned with ⟨value, bound⟩
    rcases Machine.bind_none_keeps bound noted with ⟨keeps, unchanged⟩
    exact ⟨keeps, .inl unchanged⟩
  | roundBegun goesOn within begun =>
    rcases Machine.exists_bind_of_beginRound begun with ⟨bound, binds, rfl⟩
    rcases Machine.bind_none_keeps binds noted with ⟨keeps, unchanged⟩
    exact ⟨keeps, .inl unchanged⟩
  | incremented ended =>
    rcases Machine.exists_bind_of_endRound ended with ⟨bound, binds, rfl⟩
    rcases Machine.bind_none_keeps binds noted with ⟨keeps, unchanged⟩
    exact ⟨keeps, .inl unchanged⟩
  | loopEntered classified within extracted started =>
    rw [(Machine.enterLoop_ok started).2]
    exact ⟨noted, .inl rfl⟩
  | consequencePassed | consequenceBlock =>
    refine ⟨?_, .inl (by rw [Machine.arrive_environment]; rfl)⟩
    rw [Machine.constantLine?, Machine.arrive_constants]
    exact noted
  | _ => exact ⟨noted, .inl rfl⟩

/-- The next step has found a value for a variable and goes on to bind it, though not on a given
line: it declares the variable elsewhere, assigns to it or to one of its cells, in a line of its own
or behind a condition, or begins or ends the round of a loop that counts with it. -/
inductive Attempts (limits : Limits) (name : Text) (line : Nat) (machine : Machine) : Control → Prop
  | declaration {place : Place} {source : Line} {more : List Line} {expression : Text}
      {keyword : Keyword} {value : Value}
      (classified : classify source.text = .ok (.declaration name expression keyword))
      (within : ¬Step.Exhausted limits machine)
      (evaluated : Machine.declaredValue expression machine.environment = .ok value)
      (elsewhere : source.index ≠ line) :
      Attempts limits name line machine (place.control (source :: more))
  | assignment {source : Line} {control next : Control} {visited : Machine} {event : Event}
      {expression : Text} {value : Value}
      (turns : Step.Turns limits source machine control visited event next)
      (classified : classify source.text = .ok (.assignment name expression none))
      (evaluated : evaluateText expression machine.environment = .ok value) :
      Attempts limits name line machine control
  | cell {source : Line} {control next : Control} {visited : Machine} {event : Event}
      {expression index : Text} {value updated : Value}
      (turns : Step.Turns limits source machine control visited event next)
      (classified : classify source.text = .ok (.assignment name expression (some index)))
      (evaluated : evaluateText expression machine.environment = .ok value)
      (found : Machine.updatedArray name expression index value machine.environment = .ok updated) :
      Attempts limits name line machine control
  | round {frame : Frame} {value : Float} {after : List Line} (counts : frame.counter = name)
      (goesOn : Machine.goesOn frame value machine.environment = .ok true)
      (within : ¬limits.maxLoop < ((frame.iterations + 1 : Nat) : Int)) :
      Attempts limits name line machine (.test frame value after)
  | increment {frame : Frame} {after : List Line} {old : Value} {number : Float}
      (counts : frame.counter = name)
      (found : Environment.find? name machine.environment = some old)
      (numeric : old.toNumber (some name) = .ok number) :
      Attempts limits name line machine (.body frame [] after)

section Refused

variable {limits : Limits} {machine : Machine} {control : Control} {name expression : Text}
  {value : Value} {line : Nat}

namespace Machine

theorem bind_of_noted {source : Option Nat} (noted : machine.constantLine? name = some line)
    (elsewhere : source ≠ some line) (value : Value) :
    machine.bind name value source = .error (.constReassigned name) :=
  if_pos (by simp [noted, Ne.symm elsewhere])

theorem declare_of_noted {keyword : Keyword} (noted : machine.constantLine? name = some line)
    (elsewhere : machine.cursor ≠ some line)
    (evaluated : declaredValue expression machine.environment = .ok value) :
    machine.declare name expression keyword = .error (.fault (.constReassigned name)) := by
  rw [declare, evaluated]
  dsimp only
  split
  · have stands : (machine.noteConstant name).cursor ≠ some line := by
      rwa [noteConstant_cursor]
    rw [bind_of_noted (noteConstant_keeps noted name) stands]
    rfl
  · rw [bind_of_noted noted elsewhere]
    rfl

theorem assign_of_noted (noted : machine.constantLine? name = some line)
    (evaluated : evaluateText expression machine.environment = .ok value) :
    machine.assign name expression none = .error (.constReassigned name) := by
  rw [assign, evaluated]
  exact bind_of_noted noted (by simp) value

theorem assign_cell_of_noted {index : Text} {updated : Value}
    (noted : machine.constantLine? name = some line)
    (evaluated : evaluateText expression machine.environment = .ok value)
    (found : updatedArray name expression index value machine.environment = .ok updated) :
    machine.assign name expression (some index) = .error (.constReassigned name) := by
  simp only [assign, evaluated, found]
  exact bind_of_noted noted (by simp) updated

theorem beginRound_of_noted {frame : Frame}
    (noted : machine.constantLine? frame.counter = some line) (start : Float) :
    machine.beginRound frame start = .error (.constReassigned frame.counter) := by
  rw [beginRound, bind_of_noted noted (by simp)]

theorem endRound_of_noted {frame : Frame} {number : Float}
    (noted : machine.constantLine? frame.counter = some line)
    (found : Environment.find? frame.counter machine.environment = some value)
    (numeric : value.toNumber (some frame.counter) = .ok number) :
    machine.endRound frame = .error (.constReassigned frame.counter) := by
  have refused := bind_of_noted noted (Option.some_ne_none line).symm
  simp only [endRound, found, numeric, refused]

end Machine

/-- Every attempt to write a constant but on its line fails, and changes no variable. -/
theorem Attempts.exists_step (attempts : Attempts limits name line machine control)
    (noted : machine.constantLine? name = some line) :
    ∃ stopped, step limits machine control = .fault stopped (.constReassigned name) ∧
      stopped.environment = machine.environment := by
  have refused : ∃ stopped,
      step limits machine control = .fault stopped (.constReassigned name) := by
    cases attempts with
    | @declaration place source more expression keyword value classified within evaluated
        elsewhere =>
      have failed : (machine.visit place.inBody source).declare name expression keyword =
          .error (.fault (.constReassigned name)) :=
        Machine.declare_of_noted noted (by simpa [Machine.visit] using elsewhere) evaluated
      exact ⟨_, Step.step_of_rule (.declarationFault classified within failed)⟩
    | @assignment source control next visited event expression value turns classified evaluated =>
      rw [← turns.environment] at evaluated
      rw [Machine.constantLine?, ← turns.constants] at noted
      have failed : visited.assign name expression none = .error (.constReassigned name) :=
        Machine.assign_of_noted noted evaluated
      exact ⟨visited, by rw [turns.step_eq classified, failed]; rfl⟩
    | @cell source control next visited event expression index value updated turns classified
        evaluated found =>
      rw [← turns.environment] at evaluated found
      rw [Machine.constantLine?, ← turns.constants] at noted
      have failed : visited.assign name expression (some index) = .error (.constReassigned name) :=
        Machine.assign_cell_of_noted noted evaluated found
      exact ⟨visited, by rw [turns.step_eq classified, failed]; rfl⟩
    | @round frame value after counts goesOn within =>
      subst counts
      have failed : (machine.countRound frame).1.beginRound (machine.countRound frame).2 value =
          .error (.constReassigned frame.counter) :=
        @Machine.beginRound_of_noted (machine.countRound frame).1 line _ noted value
      exact ⟨_, Step.step_of_rule (.roundFault goesOn within failed)⟩
    | @increment frame after old number counts found numeric =>
      subst counts
      have failed := Machine.endRound_of_noted noted found numeric
      exact ⟨_, Step.step_of_rule (.incrementFault failed)⟩
  rcases refused with ⟨stopped, fails⟩
  exact ⟨stopped, fails, step_mutates fails⟩

end Refused

/-! ## Runs -/

/-- From one snapshot to the next a constant has the same value, or its line has declared it. -/
def Snapshot.KeepsConstant (name : Text) (line : Nat) (earlier later : Snapshot) : Prop :=
  later.value? name = earlier.value? name ∨ later.event = .declare ∧ later.line = some line

section Course

variable {limits : Limits} {cancels : Snapshot → Bool} {machine : Machine} {control : Control}
  {shots : List Snapshot} {ending : Ending} {name : Text} {line : Nat}

theorem Keeps.keepsConstant {event : Event} {changed : Machine}
    (keeps : Keeps name line (some event) machine changed) {earlier : Snapshot}
    (same : earlier.value? name = Environment.find? name machine.environment) :
    Snapshot.KeepsConstant name line earlier (changed.showing event).2 := by
  rcases keeps.value with unchanged | ⟨declares, stands⟩
  · exact .inl (unchanged.trans same.symm)
  · exact .inr ⟨Option.some.inj declares, stands⟩

theorem Ending.keepsConstant {earlier : Snapshot} (lines : List Text) (ending : Ending)
    (same : earlier.value? name = Environment.find? name ending.machine.environment) :
    (earlier :: ending.allShots lines []).IsChain (Snapshot.KeepsConstant name line) := by
  rw [allShots, List.nil_append]
  cases concluded : ending.conclusion? lines with
  | none => exact .singleton _
  | some conclusion =>
    rcases conclusion with ⟨after, last⟩
    refine List.isChain_cons_cons.mpr ⟨.inl ?_, .singleton _⟩
    rw [Snapshot.value?, (closes_of_conclusion concluded).environment]
    exact same.symm

theorem Ending.getLast?_allShots_of_fault (lines : List Text) (shots : List Snapshot)
    (stopped : Machine) (cause : Fault) :
    ∃ last, ((Ending.faulted stopped cause).allShots lines shots).getLast? = some last ∧
      last.event = .failed ∧ last.environment = stopped.environment :=
  ⟨_, List.getLast?_concat, rfl, rfl⟩

/-- Along a course a constant keeps its value, but for snapshots at which its line declares it. -/
theorem Course.isChain_keepsConstant
    (course : Course limits cancels machine control shots ending)
    (noted : machine.constantLine? name = some line) {earlier : Snapshot}
    (same : earlier.value? name = Environment.find? name machine.environment) (lines : List Text) :
    (earlier :: ending.allShots lines shots).IsChain (Snapshot.KeepsConstant name line) := by
  induction course generalizing earlier with
  | @silent machine after control reached shots ending goes rest ih =>
    have unchanged : after.environment = machine.environment := step_mutates goes
    exact ih (step_keeps noted goes).noted (unchanged ▸ same)
  | shown goes kept rest ih =>
    have keeps := step_keeps noted goes
    exact List.isChain_cons_cons.mpr ⟨keeps.keepsConstant same, ih keeps.noted rfl⟩
  | cancelled goes stopped =>
    exact List.isChain_cons_cons.mpr ⟨(step_keeps noted goes).keepsConstant same, .singleton _⟩
  | @finished machine ended control ends =>
    have unchanged : ended.environment = machine.environment := step_mutates ends
    exact Ending.keepsConstant lines (.finished ended) (same.trans (unchanged ▸ rfl))
  | @faulted machine stopped control cause fails =>
    have unchanged : stopped.environment = machine.environment := step_mutates fails
    exact Ending.keepsConstant lines (.faulted stopped cause) (same.trans (unchanged ▸ rfl))
  | broken breaks => exact .singleton _

theorem Passes.noted {found : Machine} {met : Control}
    (passes : Passes limits cancels machine control found met)
    (noted : machine.constantLine? name = some line) : found.constantLine? name = some line := by
  induction passes with
  | here => exact noted
  | silent goes _ ih => exact ih (step_keeps noted goes).noted
  | shown goes _ _ ih => exact ih (step_keeps noted goes).noted

end Course

/-- The run of a script comes to a line that declares a constant, and the line declares it. -/
def DeclaresConstant (limits : Limits) (cancels : Snapshot → Bool) (lines : List Text) (name : Text)
    (line : Line) (changed : Machine) (behind : Control) : Prop :=
  ∃ (found : Machine) (place : Place) (more : List Line) (expression : Text),
    Passes limits cancels .started (.top (numberLines 0 lines)) found
      (place.control (line :: more)) ∧
    classify line.text = .ok (.declaration name expression .constWord) ∧
    step limits found (place.control (line :: more)) = .go (some .declare) changed behind

theorem noted_of_declaration {limits : Limits} {machine changed : Machine} {place : Place}
    {line : Line} {more : List Line} {name expression : Text} {behind : Control}
    (classified : classify line.text = .ok (.declaration name expression .constWord))
    (goes : step limits machine (place.control (line :: more)) =
      .go (some .declare) changed behind) :
    changed.constantLine? name = some line.index ∧ changed.cursor = some line.index := by
  by_cases exceeded : Step.Exhausted limits machine
  · cases goes.symm.trans (Step.step_of_rule (.exhausted classified rfl exceeded))
  cases declared : (machine.visit place.inBody line).declare name expression .constWord with
  | ok after =>
    cases goes.symm.trans (Step.step_of_rule (.declared classified exceeded declared))
    refine ⟨Machine.constantLine?_of_declare rfl declared, ?_⟩
    rcases Machine.declare_ok declared with ⟨_, _, -, rfl⟩
    rfl
  | error failure =>
    cases failure with
    | fault cause =>
      cases goes.symm.trans (Step.step_of_rule (.declarationFault classified exceeded declared))
    | breakdown cause =>
      cases goes.symm.trans (Step.step_of_rule (.declarationBreakdown classified exceeded declared))

/-- What a run that returns does with a constant, from the snapshot on that shows its declaration.
The later snapshots show the same value until the line declares it again, and wherever else the run
comes to a write, it fails there and shows the value in front of the write. -/
structure Constancy (limits : Limits) (cancels : Snapshot → Bool) (name : Text) (line : Nat)
    (changed : Machine) (behind : Control) (result : RunResult) (after : List Snapshot) : Prop where
  shown : ∃ before, result.snapshots = before ++ (changed.showing .declare).2 :: after
  line_eq : (changed.showing .declare).2.line = some line
  keeps : ((changed.showing .declare).2 :: after).IsChain (Snapshot.KeepsConstant name line)
  refused : ∀ found met, cancels (changed.showing .declare).2 = false →
    Passes limits cancels (changed.showing .declare).1 behind found met →
    Attempts limits name line found met →
    ∃ report last, result.outcome = .failed report ∧
      report.message = s!"Cannot reassign const '{name.string}'" ∧ after.getLast? = some last ∧
      last.event = .failed ∧ last.value? name = Environment.find? name found.environment

/-- In every run that returns, a constant that has been declared is protected to the end. -/
theorem Engine.run_constancy {engine ended : Engine} {script : Text} {speed : Option Value}
    {cancels : Snapshot → Bool} {result : RunResult} {name : Text} {line : Line} {changed : Machine}
    {behind : Control} (returned : engine.run script speed cancels = (ended, .ok result))
    (accepted : Dialect.violation? script = none)
    (declares : DeclaresConstant engine.limits cancels (Text.lines script) name line changed
      behind) :
    ∃ after, Constancy engine.limits cancels name line.index changed behind result after := by
  rcases run_cases returned with ⟨rule, violated, -⟩ | ⟨-, shots, ending, course, concludes⟩
  · cases accepted.symm.trans violated
  rcases concludes with ⟨-, -, answered⟩
  rcases Ending.of_answer answered.symm with ⟨ends, all, -⟩
  rcases declares with ⟨found, place, more, expression, passes, classified, goes⟩
  rcases noted_of_declaration classified goes with ⟨noted, stands⟩
  rcases course.of_passes passes with ⟨before, rest, rfl, left⟩
  cases decision : cancels (changed.showing .declare).2 with
  | true =>
    rcases left.of_cancelled goes decision with ⟨rfl, rfl⟩
    refine ⟨[], ⟨before, ?_⟩, stands, .singleton _, ?_⟩
    · simpa [Ending.allShots, Ending.conclusion?] using all
    · intro found met kept
      cases kept.symm.trans decision
  | false =>
    rcases left.of_shown goes decision with ⟨later, rfl, behindCourse⟩
    refine ⟨ending.allShots (Text.lines script) later, ⟨before, ?_⟩, stands, ?_, ?_⟩
    · simpa [Ending.allShots] using all
    · exact behindCourse.isChain_keepsConstant noted rfl (Text.lines script)
    · intro found met _ passes attempts
      rcases attempts.exists_step (passes.noted noted) with ⟨stopped, fails, unchanged⟩
      rcases behindCourse.of_passes passes with ⟨earlier, none, rfl, remaining⟩
      rcases remaining.of_fault fails with ⟨rfl, rfl⟩
      rcases Ending.getLast?_allShots_of_fault (Text.lines script) (earlier ++ []) stopped
        (.constReassigned name) with ⟨last, isLast, event, shows⟩
      refine ⟨_, last, (Except.ok.inj ends).symm, rfl, isLast, event, ?_⟩
      rw [Snapshot.value?, shows, unchanged]

/-- A constant that is assigned to on the next line. -/
theorem Engine.run_constancy_of_assignment :
    ∃ ended result changed behind after,
      new.run "const a = []\na = a".toList none (fun _ => false) = (ended, .ok result) ∧
      Constancy new.limits (fun _ => false) ['a'] 0 changed behind result after ∧
      result.outcome.phase = .failed := by
  let visited := Machine.started.visit false ⟨0, "const a = []".toList⟩
  let declared := { visited with constants := [(['a'], 0)] }.written ['a'] (.array [])
  let stopped := (declared.showing .declare).1.visit false ⟨1, "a = a".toList⟩
  let source : List Line := [⟨0, "const a = []".toList⟩, ⟨1, "a = a".toList⟩]
  have lines : numberLines 0 (Text.lines "const a = []\na = a".toList) = source := by cbv
  have classified : classify "const a = []".toList =
      .ok (.declaration ['a'] ['[', ']'] .constWord) := by cbv
  have declares : step new.limits .started (.top source) =
      .go (some .declare) declared (.top [⟨1, "a = a".toList⟩]) := by cbv
  have fails : step new.limits (declared.showing .declare).1 (.top [⟨1, "a = a".toList⟩]) =
      .fault stopped (.constReassigned ['a']) := rfl
  have course : Course new.limits (fun _ => false) .started
      (.top (numberLines 0 (Text.lines "const a = []\na = a".toList)))
      [(declared.showing .declare).2] (.faulted stopped (.constReassigned ['a'])) := by
    rw [lines]
    exact .shown declares rfl (.faulted fails)
  have protects : DeclaresConstant new.limits (fun _ => false)
      (Text.lines "const a = []\na = a".toList) ['a'] ⟨0, "const a = []".toList⟩ declared
      (.top [⟨1, "a = a".toList⟩]) := by
    rw [DeclaresConstant, lines]
    exact ⟨.started, .top, [⟨1, "a = a".toList⟩], _, .here _ _, classified, declares⟩
  have accepted : Dialect.violation? "const a = []\na = a".toList = none := by cbv
  have idle : new.isRunning = false := rfl
  rcases run_ok_of_course idle accepted course rfl with ⟨ended, returned⟩
  rcases run_constancy returned accepted protects with ⟨after, constancy⟩
  exact ⟨ended, _, declared, _, after, returned, constancy, rfl⟩

end StepScript

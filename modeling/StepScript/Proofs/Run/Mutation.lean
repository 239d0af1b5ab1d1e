import StepScript.Proofs.Environment
import StepScript.Proofs.Run.Course
import StepScript.Proofs.Run.Operation

/-!
# One mutation per snapshot

A step that carries an event binds one variable, and every other step leaves all variables as they
are (`step_mutates`).  Along a course the variables are therefore amended at most once from snapshot
to snapshot, and an ending, whatever it is, finds them as the last snapshot has shown them.
-/

namespace StepScript

/-- What a step does to the variables it found. -/
def Step.Mutates (found : Environment) : Step → Prop
  | .go none machine _ => machine.environment = found
  | .go (some _) machine _ =>
    ∃ name value, machine.environment = Environment.bind name value found
  | .finish machine | .fault machine _ | .breakdown machine _ => machine.environment = found

/-- Only a step that carries an event binds a variable, and it binds one. -/
theorem step_mutates {limits : Limits} {machine : Machine} {control : Control} {result : Step}
    (steps : step limits machine control = result) : result.Mutates machine.environment := by
  cases Step.rule_of_step steps with
  | declared classified within declared =>
    rcases Machine.declare_ok declared with ⟨value, constants, _, rfl⟩
    exact ⟨_, value, rfl⟩
  | assigned classified within assigned =>
    rcases Machine.assign_ok assigned with ⟨value, rfl⟩
    exact ⟨_, value, rfl⟩
  | consequenceAssigned judged consequence holds withinNext assigned =>
    rcases Machine.assign_ok assigned with ⟨value, rfl⟩
    exact ⟨_, value, rfl⟩
  | roundBegun goesOn within begun =>
    rw [Machine.beginRound_ok begun]
    exact ⟨_, _, rfl⟩
  | incremented ended =>
    rw [Machine.endRound_ok ended]
    exact ⟨_, _, rfl⟩
  | loopEntered classified within extracted started =>
    rw [(Machine.enterLoop_ok started).2]
    rfl
  | consequencePassed | consequenceBlock | consequenceUnclosed =>
    exact Machine.arrive_environment _ _ _ _
  | _ => rfl

theorem step_amends {limits : Limits} {machine changed : Machine} {control reached : Control}
    {event : Event} (goes : step limits machine control = .go (some event) changed reached) :
    Environment.Amends machine.environment changed.environment := by
  rcases step_mutates goes with ⟨name, value, bound⟩
  exact bound ▸ Environment.amends_bind name value machine.environment

namespace Course

variable {limits : Limits} {cancels : Snapshot → Bool} {machine : Machine} {control : Control}
  {shots : List Snapshot} {ending : Ending}

/-- From snapshot to snapshot the variables are amended at most once. -/
theorem isChain_amends (course : Course limits cancels machine control shots ending) :
    List.IsChain Environment.Amends (machine.environment :: shots.map Snapshot.environment) := by
  induction course with
  | @silent machine after control reached shots ending goes rest ih =>
    have same : after.environment = machine.environment := step_mutates goes
    exact same ▸ ih
  | shown goes kept rest ih => exact List.isChain_cons_cons.mpr ⟨step_amends goes, ih⟩
  | cancelled goes stopped => exact List.isChain_cons_cons.mpr ⟨step_amends goes, .singleton _⟩
  | finished | faulted | broken => exact .singleton _

/-- An ending finds the variables as the last snapshot has shown them. -/
theorem environment_of_ending (course : Course limits cancels machine control shots ending) :
    ending.machine.environment =
      (shots.map Snapshot.environment).getLastD machine.environment := by
  induction course with
  | @silent machine after control reached shots ending goes rest ih =>
    have same : after.environment = machine.environment := step_mutates goes
    exact same ▸ ih
  | shown goes kept rest ih =>
    rw [List.map_cons, List.getLastD_cons]
    exact ih
  | cancelled goes stopped => rfl
  | finished ends | faulted ends | broken ends => exact step_mutates ends

end Course

namespace Ending

/-- Ending a run leaves the variables as they are. -/
theorem environment_machineAfter (lines : List Text) (ending : Ending) :
    (ending.machineAfter lines).environment = ending.machine.environment := by
  cases ending <;> rfl

end Ending

/-- The variables that the last of some snapshots shows; none when there is no snapshot. -/
def Snapshot.lastEnvironment (shots : List Snapshot) : Environment :=
  (shots.map environment).getLastD []

/-- What may happen to the variables from snapshot to snapshot of a run.  `left` are the variables
that the run leaves behind. -/
structure StepwiseMutation (shots : List Snapshot) (left : Environment) : Prop where
  first : ∀ shown, shots.head? = some shown → shown.environment.length ≤ 1
  consecutive : shots.IsChain fun earlier later =>
    Environment.Amends earlier.environment later.environment
  names_kept : shots.IsChain fun earlier later =>
    Environment.names earlier.environment <+: Environment.names later.environment
  names_distinct : ∀ shown ∈ shots, (Environment.names shown.environment).Nodup
  ending_unchanged : ∀ before last, shots = before ++ [last] → last.event.endsRun = true →
    last.environment = Snapshot.lastEnvironment before
  left_unchanged : left = Snapshot.lastEnvironment shots

namespace Snapshot

variable {shots : List Snapshot} {shown : Snapshot}

theorem lastEnvironment_concat (shots : List Snapshot) (shown : Snapshot) :
    lastEnvironment (shots ++ [shown]) = shown.environment := by
  simp [lastEnvironment]

/-- A chain of amendments goes on with a snapshot of the variables that it ends with. -/
theorem isChain_concat (chain : List.IsChain Environment.Amends ([] :: shots.map environment))
    (same : shown.environment = lastEnvironment shots) :
    List.IsChain Environment.Amends ([] :: (shots ++ [shown]).map environment) := by
  rw [List.map_append, ← List.cons_append]
  refine List.isChain_append.mpr ⟨chain, .singleton _, ?_⟩
  intro before last after first
  rw [List.getLast?_cons, ← List.getLastD_eq_getLast?, Option.mem_some_iff] at last
  obtain rfl : shown.environment = after := by simpa using first
  rw [same, lastEnvironment, last]
  exact .unchanged before

end Snapshot

theorem StepwiseMutation.of_chain {shots : List Snapshot} {left : Environment}
    (chain : List.IsChain Environment.Amends ([] :: shots.map Snapshot.environment))
    (ending_unchanged : ∀ before last, shots = before ++ [last] → last.event.endsRun = true →
      last.environment = Snapshot.lastEnvironment before)
    (left_unchanged : left = Snapshot.lastEnvironment shots) : StepwiseMutation shots left where
  first shown isHead := by
    cases shots with
    | nil => simp at isHead
    | cons head rest =>
      obtain rfl : head = shown := by simpa using isHead
      exact (List.isChain_cons_cons.mp chain).1.length_le
  consecutive := (List.isChain_map _).mp chain.tail
  names_kept := ((List.isChain_map _).mp chain.tail).imp fun _ _ amends => amends.names_isPrefix
  names_distinct shown member :=
    chain.cons_induction (fun environment => (Environment.names environment).Nodup) _
      (fun _ _ amends => amends.names_nodup) .nil _ (List.mem_map_of_mem member)
  ending_unchanged := ending_unchanged
  left_unchanged := left_unchanged

/-- Every run mutates its variables stepwise: one variable per snapshot, none at its end, and none
that no snapshot has shown. -/
theorem Engine.run_stepwiseMutation {engine ended : Engine} {script : Text} {speed : Option Value}
    {cancels : Snapshot → Bool} {result : RunResult}
    (returned : engine.run script speed cancels = (ended, .ok result)) :
    StepwiseMutation result.snapshots ended.machine.environment := by
  rcases run_cases returned with ⟨rule, _, rfl, _, machine⟩ | ⟨_, shots, ending, course, concludes⟩
  · rw [machine]
    exact .of_chain (.singleton _) (by simp) rfl
  · rcases concludes with ⟨_, machine, answered⟩
    rcases Ending.of_answer answered.symm with ⟨_, all, _⟩
    have chain := course.isChain_amends
    have found : ending.machine.environment = Snapshot.lastEnvironment shots :=
      course.environment_of_ending
    have left : ended.machine.environment = ending.machine.environment := by
      rw [show ended.machine = _ from machine, Ending.environment_machineAfter]
    rw [all, left, Ending.allShots]
    cases concluded : ending.conclusion? (Text.lines script) with
    | none =>
      rw [Option.map_none, Option.toList_none, List.append_nil]
      refine .of_chain chain ?_ found
      intro before last split ends
      have kept := course.endsRun_of_mem last (by simp [split])
      simp [kept] at ends
    | some conclusion =>
      rcases conclusion with ⟨after, shown⟩
      have last : shown.environment = ending.machine.environment :=
        (Ending.closes_of_conclusion concluded).environment
      rw [Option.map_some, Option.toList_some]
      refine .of_chain (Snapshot.isChain_concat chain (last.trans found)) ?_ ?_
      · intro before other split _
        rcases List.append_inj' split rfl with ⟨rfl, same⟩
        obtain rfl : shown = other := by simpa using same
        exact last.trans found
      · exact last.symm.trans (Snapshot.lastEnvironment_concat shots shown).symm

/-- A declaration that exceeds the limit leaves the variable of the one before it. -/
theorem Engine.run_stepwiseMutation_of_limit :
    ∃ ended result,
      (withLimits ⟨1, 1⟩).run "let a = []\nlet b = []".toList none (fun _ => false) =
        (ended, .ok result) ∧
      result.snapshots.map Snapshot.event = [.declare, .failed] ∧
      StepwiseMutation result.snapshots ended.machine.environment := by
  let declared := (Machine.started.visit false ⟨0, "let a = []".toList⟩).written ['a'] (.array [])
  have declares : step ⟨1, 1⟩ .started
      (.top (numberLines 0 (Text.lines "let a = []\nlet b = []".toList))) =
      .go (some .declare) declared (.top [⟨1, "let b = []".toList⟩]) := by cbv
  have fails : step ⟨1, 1⟩ (declared.showing .declare).1 (.top [⟨1, "let b = []".toList⟩]) =
      .fault ((declared.showing .declare).1.visit false ⟨1, "let b = []".toList⟩)
        (.stepLimit 1) := by cbv
  have course : Course ⟨1, 1⟩ (fun _ => false) .started
      (.top (numberLines 0 (Text.lines "let a = []\nlet b = []".toList)))
      [(declared.showing .declare).2] (.faulted _ (.stepLimit 1)) :=
    .shown declares rfl (.faulted fails)
  have accepted : Dialect.violation? "let a = []\nlet b = []".toList = none := by cbv
  have idle : (withLimits ⟨1, 1⟩).isRunning = false := rfl
  rcases run_ok_of_course idle accepted course rfl with ⟨ended, returned⟩
  refine ⟨ended, _, returned, ?_, run_stepwiseMutation returned⟩
  rw [Ending.allShots, List.map_append]
  rfl

end StepScript

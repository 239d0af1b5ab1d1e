import StepScript.Proofs.Engine.Stream
import StepScript.Proofs.Run.Shape

/-!
# Cancelled runs

Whether a run is to stop is asked in one place, right behind a snapshot of a change.  A run that is
cancelled there has gone the course of the uncancelled run up to that snapshot (`Course.cut`), and
nothing has happened since.  A stream that is given up there leaves the engine in the same way.
-/

namespace StepScript

namespace Course

variable {limits : Limits} {cancels other : Snapshot → Bool} {machine : Machine}
  {control : Control} {shots : List Snapshot} {ending : Ending}

/-- An observer that decides alike on every snapshot shown leaves the course as it is. -/
theorem congr (course : Course limits cancels machine control shots ending)
    (alike : ∀ shown ∈ shots, other shown = cancels shown) :
    Course limits other machine control shots ending := by
  induction course with
  | silent goes rest ih => exact .silent goes (ih alike)
  | shown goes kept rest ih =>
    have keptToo := (alike _ List.mem_cons_self).trans kept
    have later := ih fun shown member => alike shown (List.mem_cons_of_mem _ member)
    exact .shown goes keptToo later
  | cancelled goes stopped =>
    exact .cancelled goes ((alike _ List.mem_cons_self).trans stopped)
  | finished ends => exact .finished ends
  | faulted fails => exact .faulted fails
  | broken breaks => exact .broken breaks

/-- An observer that cancels at a snapshot and at none before it cuts the course off behind it. -/
theorem cut (course : Course limits cancels machine control shots ending)
    {before after : List Snapshot} {shown : Snapshot} (split : shots = before ++ shown :: after)
    (kept : ∀ earlier ∈ before, other earlier = false) (stopped : other shown = true) :
    ∃ left, Course limits other machine control (before ++ [shown]) (.cancelled left) := by
  induction course generalizing before with
  | silent goes rest ih =>
    rcases ih split kept with ⟨left, cut⟩
    exact ⟨left, .silent goes cut⟩
  | @shown machine changed control reached event shots ending goes _ rest ih =>
    cases before with
    | nil =>
      rcases List.cons.inj split with ⟨rfl, _⟩
      exact ⟨_, .cancelled goes stopped⟩
    | cons first later =>
      rcases List.cons.inj split with ⟨rfl, same⟩
      rcases ih same (fun earlier member => kept earlier (List.mem_cons_of_mem _ member)) with
        ⟨left, cut⟩
      exact ⟨left, .shown goes (kept _ List.mem_cons_self) cut⟩
  | cancelled goes _ =>
    cases before with
    | nil =>
      rcases List.cons.inj split with ⟨rfl, _⟩
      exact ⟨_, .cancelled goes stopped⟩
    | cons first later => simp at split
  | finished | faulted | broken => simp at split

end Course

/-- Of snapshots numbered from one, the observer of a number cancels at the one in its place. -/
theorem Snapshot.isNumber_iff {shots : List Snapshot}
    (numbered : shots.map seq = List.range' 1 shots.length) {number position : Nat}
    {shown : Snapshot} (found : shots[position]? = some shown) :
    isNumber (some (number : Int)) shown = true ↔ position + 1 = number := by
  rw [isNumber, seq_of_map_eq numbered found, beq_iff_eq, Option.some.injEq]
  omega

theorem Snapshot.isNumber_eq_false {shots : List Snapshot}
    (numbered : shots.map seq = List.range' 1 shots.length) {number position : Nat}
    {shown : Snapshot} (found : shots[position]? = some shown) (elsewhere : position + 1 ≠ number) :
    isNumber (some (number : Int)) shown = false :=
  Bool.eq_false_of_not_eq_true ((not_congr (isNumber_iff numbered found)).mpr elsewhere)

namespace Engine

/-- What cancelling a run at the snapshot with a number comes to, and giving up its stream there.
`result` is what the run comes to when it is left alone. -/
structure CancelsExactly (engine : Engine) (script : Text) (speed : Option Value)
    (result : RunResult) (number : Nat) : Prop where
  run_cut : number ≤ result.changes.length → ∃ ended shown,
    result.snapshots[number - 1]? = some shown ∧
      engine.run script speed (Snapshot.isNumber (some number)) =
        (ended, .ok ⟨.cancelled, result.snapshots.take number, shown.log⟩)
  run_unaffected : result.changes.length < number → ∃ ended,
    engine.run script speed (Snapshot.isNumber (some number)) = (ended, .ok result)
  close_stays : number ≤ result.snapshots.length → ∃ suspended rest shown,
    engine.take (.unstarted script speed) number =
        some (result.snapshots.take number, suspended, rest) ∧
      result.snapshots[number - 1]? = some shown ∧
      suspended.machine.IsShown shown ∧
      (suspended.close rest).machine = suspended.machine ∧
      (number ≤ result.changes.length → (suspended.close rest).phase = .cancelled) ∧
      (result.changes.length < number →
        (suspended.close rest).phase = suspended.phase ∧
          suspended.phase = result.outcome.phase ∧
          (suspended.phase = .completed ∨ suspended.phase = .failed))

variable {engine ended : Engine} {script : Text} {speed : Option Value} {result : RunResult}
  {position : Nat} {shown : Snapshot}

/-- The changes that a run shows are its first snapshots. -/
theorem changes_isPrefix
    (returned : engine.run script speed (fun _ => false) = (ended, .ok result)) :
    result.changes <+: result.snapshots := by
  rcases run_cases returned with ⟨rule, _, rfl, _⟩ | ⟨_, shots, ending, course, _, _, answered⟩
  · exact List.prefix_rfl
  · rcases Ending.of_answer answered.symm with ⟨_, all, _⟩
    rw [RunResult.changes_eq course all, all]
    exact List.prefix_append shots _

/-- A run that is cancelled at a change shows the snapshots up to it, and the log of the last. -/
theorem run_of_cut (returned : engine.run script speed (fun _ => false) = (ended, .ok result))
    (found : result.changes[position]? = some shown) : ∃ stopped,
    engine.run script speed (Snapshot.isNumber (some (position + 1 : Nat))) =
      (stopped, .ok ⟨.cancelled, result.changes.take (position + 1), shown.log⟩) := by
  rcases run_cases returned with
    ⟨rule, _, rfl, _⟩ | ⟨accepted, shots, ending, course, _, _, answered⟩
  · simp [RunResult.changes] at found
  · rcases Ending.of_answer answered.symm with ⟨_, all, _⟩
    rw [RunResult.changes_eq course all] at found ⊢
    have numbered : shots.map Snapshot.seq = List.range' 1 shots.length := course.seq_eq.1
    have within : position < shots.length := (List.getElem?_eq_some_iff.mp found).1
    have place : shots[position] = shown := (List.getElem?_eq_some_iff.mp found).2
    have split : shots = shots.take position ++ shown :: shots.drop (position + 1) := by
      rw [← place, List.getElem_cons_drop, List.take_append_drop]
    have kept : ∀ earlier ∈ shots.take position,
        Snapshot.isNumber (some (position + 1 : Nat)) earlier = false := by
      intro earlier member
      rcases List.mem_take_iff_getElem.mp member with ⟨index, below, rfl⟩
      have found : shots[index]? = some shots[index] := List.getElem?_eq_getElem (by omega)
      exact Snapshot.isNumber_eq_false numbered found (by omega)
    have stopped : Snapshot.isNumber (some (position + 1 : Nat)) shown = true :=
      (Snapshot.isNumber_iff numbered found).mpr rfl
    rcases course.cut split kept stopped with ⟨left, cut⟩
    rcases cut.entries_of_cancelled with ⟨last, isLast, entries⟩
    obtain rfl : shown = last := by simpa using isLast
    rcases concludes_of_course returned accepted cut with ⟨_, _, answeredToo⟩
    refine ⟨_, Prod.ext rfl (answeredToo.trans ?_)⟩
    have taken : shots.take position ++ [shown] = shots.take (position + 1) := by
      rw [← place, List.take_append_getElem]
    have log : left.log = shown.log := congrArg List.reverse entries.symm
    simp [Ending.answer, Ending.outcome, Ending.allShots, Ending.conclusion?, Ending.machineAfter,
      Ending.machine, taken, log]

/-- A run that would be cancelled behind its changes only is not cancelled. -/
theorem run_of_uncut {number : Nat}
    (returned : engine.run script speed (fun _ => false) = (ended, .ok result))
    (behind : result.changes.length < number) : ∃ other,
    engine.run script speed (Snapshot.isNumber (some number)) = (other, .ok result) := by
  rcases run_cases returned with
    ⟨rule, violated, rfl, _⟩ | ⟨accepted, shots, ending, course, _, _, answered⟩
  · exact ⟨_, run_of_violation (idle_of_run returned) violated⟩
  · rcases Ending.of_answer answered.symm with ⟨_, all, _⟩
    rw [RunResult.changes_eq course all] at behind
    have kept : ∀ shown ∈ shots, Snapshot.isNumber (some number) shown = false := by
      intro shown member
      rcases List.getElem_of_mem member with ⟨index, below, rfl⟩
      have found : shots[index]? = some shots[index] := List.getElem?_eq_getElem below
      exact Snapshot.isNumber_eq_false course.seq_eq.1 found (by omega)
    rcases concludes_of_course returned accepted (course.congr kept) with ⟨_, _, answeredToo⟩
    exact ⟨_, Prod.ext rfl (answeredToo.trans answered.symm)⟩

/-- The snapshots of a run show changes up to where its changes reach. -/
theorem endsRun_eq_false_iff
    (returned : engine.run script speed (fun _ => false) = (ended, .ok result))
    (found : result.snapshots[position]? = some shown) :
    shown.event.endsRun = false ↔ position < result.changes.length := by
  rcases run_cases returned with ⟨rule, _, rfl, _⟩ | ⟨_, shots, ending, course, _, _, answered⟩
  · simp at found
  · rcases Ending.of_answer answered.symm with ⟨_, all, _⟩
    rw [all, Ending.allShots, List.getElem?_append] at found
    rw [RunResult.changes_eq course all]
    split at found
    next within =>
      exact iff_of_true (course.endsRun_of_mem shown (List.mem_of_getElem? found)) within
    next behind =>
      rcases Option.map_eq_some_iff.mp (Option.mem_toList.mp (List.mem_of_getElem? found)) with
        ⟨conclusion, concluded, rfl⟩
      have ends := (Ending.closes_of_conclusion concluded).endsRun
      exact iff_of_false (by simp [ends]) behind

/-- A stream that is given up behind a snapshot leaves the engine where the snapshot shows it. -/
theorem close_of_taken (returned : engine.run script speed (fun _ => false) = (ended, .ok result))
    (found : result.snapshots[position]? = some shown) : ∃ suspended rest,
    engine.take (.unstarted script speed) (position + 1) =
        some (result.snapshots.take (position + 1), suspended, rest) ∧
      suspended.machine.IsShown shown ∧
      (suspended.close rest).machine = suspended.machine ∧
      (position < result.changes.length → (suspended.close rest).phase = .cancelled) ∧
      (¬position < result.changes.length →
        (suspended.close rest).phase = suspended.phase ∧
          suspended.phase = result.outcome.phase ∧
          (suspended.phase = .completed ∨ suspended.phase = .failed)) := by
  rcases take_of_run returned found with ⟨suspended, rest, taken, settled, shows⟩
  refine ⟨suspended, rest, taken, shows.machine, ?_⟩
  rcases shows.stage with ⟨change, _, lines, control, rfl⟩ | ⟨ends, reached, outcome, rfl, phase⟩
  · have within := (endsRun_eq_false_iff returned found).mp change
    exact ⟨rfl, fun _ => rfl, fun behind => absurd within behind⟩
  · have behind : ¬position < result.changes.length := by
      intro within
      have change := (endsRun_eq_false_iff returned found).mpr within
      simp [ends] at change
    have same := settled outcome rfl
    exact ⟨rfl, fun within => absurd within behind, fun _ => ⟨rfl, same ▸ phase, reached⟩⟩

/-- Cancelling a run at one of its changes, or giving up its stream there, leaves exactly what the
run has shown so far; at any other number nothing comes of it. -/
theorem run_cancelsExactly {number : Nat}
    (returned : engine.run script speed (fun _ => false) = (ended, .ok result))
    (positive : 0 < number) : CancelsExactly engine script speed result number := by
  obtain ⟨position, rfl⟩ : ∃ position, number = position + 1 := ⟨number - 1, by omega⟩
  have first := changes_isPrefix returned
  constructor
  · intro within
    have below : position < result.changes.length := within
    have found : result.changes[position]? = some result.changes[position] :=
      List.getElem?_eq_getElem below
    have taken : result.changes.take (position + 1) = result.snapshots.take (position + 1) := by
      rcases first with ⟨rest, all⟩
      rw [← all, List.take_append_of_le_length within]
    rcases run_of_cut returned found with ⟨stopped, cut⟩
    exact ⟨stopped, _, List.prefix_iff_getElem?.mp first position below, taken ▸ cut⟩
  · exact run_of_uncut returned
  · intro within
    have found : result.snapshots[position]? = some result.snapshots[position] :=
      List.getElem?_eq_getElem within
    rcases close_of_taken returned found with ⟨suspended, rest, taken, shown, stays, inside, behind⟩
    exact ⟨suspended, rest, _, taken, found, shown, stays, inside,
      fun outside => behind (Nat.not_lt_of_le (Nat.le_of_lt_succ outside))⟩

/-- A declaration shows one change and an end: cancelling at the change leaves the end out. -/
theorem run_cancelsExactly_of_declaration :
    ∃ ended result,
      new.run "let a = []".toList none (fun _ => false) = (ended, .ok result) ∧ 0 < 1 ∧
      result.changes.length = 1 ∧ result.snapshots.length = 2 ∧
      CancelsExactly new "let a = []".toList none result 1 := by
  let declared := (Machine.started.visit false ⟨0, "let a = []".toList⟩).written ['a'] (.array [])
  have declares : step .standard .started (.top (numberLines 0 (Text.lines "let a = []".toList))) =
      .go (some .declare) declared (.top []) := by cbv
  have course : Course .standard (fun _ => false) .started
      (.top (numberLines 0 (Text.lines "let a = []".toList)))
      [(declared.showing .declare).2] (.finished (declared.showing .declare).1) :=
    .shown declares rfl (.finished rfl)
  have accepted : Dialect.violation? "let a = []".toList = none := by cbv
  have idle : new.isRunning = false := rfl
  rcases run_ok_of_course idle accepted course rfl with ⟨ended, returned⟩
  refine ⟨ended, _, returned, Nat.one_pos, ?_, rfl, run_cancelsExactly returned Nat.one_pos⟩
  rw [RunResult.changes_eq course rfl]
  rfl

end Engine

end StepScript

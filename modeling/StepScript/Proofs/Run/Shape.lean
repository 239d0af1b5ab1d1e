import StepScript.Proofs.Run.Course
import StepScript.Proofs.Run.Position

/-!
# The shape of a run

The snapshots of a run are numbered from one, each shows the log that the next one adds to, and all
show changes but a last one that a run takes when it ends by itself.  The lines that are visited
outside of loops come in their order, because the timeline of a run only loses lines.
-/

namespace StepScript

namespace Snapshot

/-- A snapshot of a change in a script with a given number of lines. -/
structure IsChange (count : Nat) (shown : Snapshot) : Prop where
  running : shown.phase = .running
  event : shown.event.endsRun = false
  line : ∃ index, shown.line = some index ∧ index < count
  message : shown.message = none
  report : shown.report = none

/-- A snapshot that a run takes when it ends by itself. -/
structure IsEnd (shown : Snapshot) : Prop where
  event : shown.event = .completed ∧ shown.phase = .completed ∨
    shown.event = .failed ∧ shown.phase = .failed
  line : shown.line = none
  highlight : shown.highlight = none

/-- The last snapshot tells how the run came out that has left a machine at its end. -/
structure Tells (outcome : Outcome) (machine : Machine) (shown : Snapshot) : Prop
    extends shown.IsEnd where
  phase : shown.phase = outcome.phase
  message : shown.message = some outcome.message
  report : shown.report = outcome.report
  seq : shown.seq = machine.taken + 1
  entries : ∃ entry : LogEntry, entry.index? = none ∧ shown.entries = entry :: machine.entries

theorem IsEnd.endsRun {shown : Snapshot} (ended : shown.IsEnd) : shown.event.endsRun = true := by
  rcases ended.event with ⟨event, _⟩ | ⟨event, _⟩ <;> rw [event] <;> rfl

/-- Of a run that ends by itself, the event of the last snapshot and its phase say the same. -/
theorem IsEnd.phase_iff {shown : Snapshot} (ended : shown.IsEnd) :
    (shown.phase = .completed ↔ shown.event = .completed) ∧
      (shown.phase = .failed ↔ shown.event = .failed) := by
  rcases ended.event with ⟨event, phase⟩ | ⟨event, phase⟩ <;> simp [event, phase]

end Snapshot

theorem Ending.conclusion?_spec {lines : List Text} {ending : Ending} {outcome : Outcome}
    {after : Machine} {shown : Snapshot} (ends : ending.outcome lines = .ok outcome)
    (concluded : ending.conclusion? lines = some (after, shown)) :
    shown.Tells outcome ending.machine ∧ after.entries = shown.entries := by
  cases ending with
  | finished machine =>
    cases Except.ok.inj ends
    rcases Prod.mk.inj (Option.some.inj concluded) with ⟨rfl, rfl⟩
    exact ⟨⟨⟨.inl ⟨rfl, rfl⟩, rfl, rfl⟩, rfl, rfl, rfl, rfl, .completed, rfl, rfl⟩, rfl⟩
  | faulted machine cause =>
    cases Except.ok.inj ends
    rcases Prod.mk.inj (Option.some.inj concluded) with ⟨rfl, rfl⟩
    exact ⟨⟨⟨.inr ⟨rfl, rfl⟩, rfl, rfl⟩, rfl, rfl, rfl, rfl, .failed _, rfl, rfl⟩, rfl⟩
  | broken | cancelled => simp [conclusion?] at concluded

theorem Ending.eq_cancelled {lines : List Text} {ending : Ending} {outcome : Outcome}
    (ends : ending.outcome lines = .ok outcome) (unconcluded : ending.conclusion? lines = none) :
    ending = .cancelled ending.machine ∧ outcome = .cancelled := by
  cases ending with
  | finished | faulted => simp [conclusion?] at unconcluded
  | broken => simp [Ending.outcome] at ends
  | cancelled left => exact ⟨rfl, (Except.ok.inj ends).symm⟩

namespace Course

variable {limits : Limits} {cancels : Snapshot → Bool} {machine : Machine} {control : Control}
  {shots : List Snapshot} {ending : Ending} {count : Nat}

/-- The snapshots of a course show changes at lines that its control point knows. -/
theorem isChange_of_mem (course : Course limits cancels machine control shots ending)
    (known : ∀ index ∈ control.indices, index < count) : ∀ shown ∈ shots, shown.IsChange count := by
  induction course with
  | silent goes rest ih =>
    rcases step_indices goes with ⟨inside, _⟩
    exact ih fun index member => known index (inside member)
  | shown goes kept rest ih =>
    rcases step_indices goes with ⟨inside, shows⟩
    intro shown member
    rcases List.mem_cons.mp member with rfl | later
    · rcases shows rfl with ⟨index, found, cursor⟩
      exact ⟨rfl, Step.endsRun_of_go goes, ⟨index, cursor, known index found⟩, rfl, rfl⟩
    · exact ih (fun index found => known index (inside found)) shown later
  | cancelled goes stopped =>
    rcases step_indices goes with ⟨_, shows⟩
    intro shown member
    rw [List.mem_singleton.mp member]
    rcases shows rfl with ⟨index, found, cursor⟩
    exact ⟨rfl, Step.endsRun_of_go goes, ⟨index, cursor, known index found⟩, rfl, rfl⟩
  | finished | faulted | broken => simp

/-- The snapshots of a course are numbered on from those taken before. -/
theorem seq_eq (course : Course limits cancels machine control shots ending) :
    shots.map Snapshot.seq = List.range' (machine.taken + 1) shots.length ∧
      ending.machine.taken = machine.taken + shots.length := by
  induction course with
  | @silent machine after control reached shots ending goes rest ih =>
    have taken : after.taken = machine.taken := step_taken goes
    exact taken ▸ ih
  | @shown machine changed control reached event shots ending goes kept rest ih =>
    have taken : changed.taken = machine.taken := step_taken goes
    have counted : (changed.showing event).1.taken = machine.taken + 1 := congrArg (· + 1) taken
    rw [counted] at ih
    constructor
    · rw [List.map_cons, ih.1, List.length_cons, List.range'_succ]
      exact congrArg (· :: _) counted
    · rw [ih.2, List.length_cons]
      omega
  | @cancelled machine changed control reached event goes stopped =>
    have taken : changed.taken = machine.taken := step_taken goes
    have counted : (changed.showing event).1.taken = machine.taken + 1 := congrArg (· + 1) taken
    exact ⟨congrArg ([·]) counted, counted⟩
  | finished ends | faulted ends | broken ends => exact ⟨rfl, step_taken ends⟩

/-- The log only grows, from snapshot to snapshot and up to the ending. -/
theorem isChain_entries (course : Course limits cancels machine control shots ending) :
    List.IsChain (· <:+ ·)
      (machine.entries :: (shots.map Snapshot.entries ++ [ending.machine.entries])) := by
  induction course with
  | silent goes rest ih =>
    rcases List.isChain_cons.mp ih with ⟨first, later⟩
    refine List.isChain_cons.mpr ⟨?_, later⟩
    intro next isHead
    exact (step_entries goes).trans (first next isHead)
  | shown goes kept rest ih => exact List.isChain_cons_cons.mpr ⟨step_entries goes, ih⟩
  | cancelled goes stopped =>
    exact List.isChain_cons_cons.mpr ⟨step_entries goes, List.isChain_pair.mpr List.suffix_rfl⟩
  | finished ends | faulted ends | broken ends => exact List.isChain_pair.mpr (step_entries ends)

/-- The lines visited up to the ending are lines of the timeline, in its order. -/
theorem visited_sublist (course : Course limits cancels machine control shots ending) :
    ending.machine.visited.Sublist (machine.visited ++ control.pending) := by
  induction course with
  | silent goes rest ih | shown goes kept rest ih => exact ih.trans (step_timeline goes)
  | cancelled goes | finished goes | faulted goes | broken goes =>
    exact (List.sublist_append_left _ _).trans (step_timeline goes)

theorem entries_of_cancelled {left : Machine}
    (course : Course limits cancels machine control shots (.cancelled left)) :
    ∃ last, shots.getLast? = some last ∧ last.entries = left.entries := by
  generalize equal : Ending.cancelled left = ending at course
  induction course with
  | silent goes rest ih => exact ih equal
  | shown goes kept rest ih =>
    rcases ih equal with ⟨last, isLast, same⟩
    refine ⟨last, ?_, same⟩
    rw [List.getLast?_cons, isLast]
    rfl
  | cancelled goes stopped =>
    injection equal with same
    exact ⟨_, rfl, same ▸ rfl⟩
  | finished | faulted | broken => simp at equal

end Course

/-- The shape of what the run of a script leaves behind. -/
structure RunShape (script : Text) (result : RunResult) : Prop where
  seq : ∀ position shown, result.snapshots[position]? = some shown → shown.seq = position + 1
  log_grows : result.snapshots.IsChain fun earlier later => earlier.log <+: later.log
  lines_increase : (result.log.filterMap LogEntry.index?).Pairwise (· < ·)
  changes_then_end : ∃ (changes : List Snapshot) (terminal : Option Snapshot),
    result.snapshots = changes ++ terminal.toList ∧
      (∀ shown ∈ changes, shown.IsChange (Text.lines script).length) ∧
      ∀ shown ∈ terminal, shown.IsEnd
  completed_iff : Dialect.violation? script = none →
    (result.outcome.phase = .completed ↔
      ∃ last, result.final? = some last ∧ last.event = .completed)
  failed_iff : Dialect.violation? script = none →
    (result.outcome.phase = .failed ↔
      ∃ last, result.final? = some last ∧ last.event = .failed)
  last_tells : ∀ last, result.final? = some last → last.event.endsRun = true →
    last.message = some result.outcome.message ∧ last.report = result.outcome.report
  cancelled_open : result.outcome.phase = .cancelled →
    ∀ shown ∈ result.snapshots, shown.event.endsRun = false
  rejected_unshown : Dialect.violation? script ≠ none → result.snapshots = []
  log_eq : ∀ last, result.final? = some last → result.log = last.log

theorem Snapshot.seq_of_map_eq {shots : List Snapshot}
    (numbered : shots.map seq = List.range' 1 shots.length) {position : Nat} {shown : Snapshot}
    (found : shots[position]? = some shown) : shown.seq = position + 1 := by
  have within : position < shots.length := (List.getElem?_eq_some_iff.mp found).1
  have number : (shots.map seq)[position]? = some shown.seq := by rw [List.getElem?_map, found]; rfl
  rw [numbered, List.getElem?_range' within] at number
  have same := Option.some.inj number
  omega

/-- Entries that only grow, newest first, make logs that only grow. -/
theorem Snapshot.isChain_log {shots : List Snapshot}
    (chain : List.IsChain (· <:+ ·) (shots.map entries)) :
    shots.IsChain fun earlier later => earlier.log <+: later.log :=
  ((List.isChain_map _).mp chain).imp fun _ _ grows => List.reverse_prefix.mpr grows

namespace RunShape

variable {limits : Limits} {cancels : Snapshot → Bool} {script : Text} {shots : List Snapshot}
  {ending : Ending} {outcome : Outcome}

/-- In a script, a course visits lines outside of loops in their order. -/
theorem visited_pairwise
    (course : Course limits cancels .started (.top (numberLines 0 (Text.lines script))) shots
      ending) : ending.machine.visited.Pairwise (· < ·) := by
  refine List.Pairwise.sublist course.visited_sublist ?_
  show ([] ++ (numberLines 0 (Text.lines script)).map Line.index).Pairwise (· < ·)
  rw [List.nil_append, index_numberLines]
  exact List.pairwise_lt_range'

/-- In a script, the snapshots of a course show changes at lines of the script. -/
theorem isChange_of_mem
    (course : Course limits cancels .started (.top (numberLines 0 (Text.lines script))) shots
      ending) : ∀ shown ∈ shots, shown.IsChange (Text.lines script).length := by
  refine course.isChange_of_mem ?_
  intro index member
  have member : index ∈ (numberLines 0 (Text.lines script)).map Line.index := member
  rw [index_numberLines, List.mem_range'_1] at member
  omega

theorem of_cancelled {left : Machine} (accepted : Dialect.violation? script = none)
    (course : Course limits cancels .started (.top (numberLines 0 (Text.lines script))) shots
      (.cancelled left)) : RunShape script ⟨.cancelled, shots, left.log⟩ := by
  have unended := course.endsRun_of_mem
  have unfinal : ∀ event : Event, event.endsRun = true →
      ¬∃ last, shots.getLast? = some last ∧ last.event = event := by
    rintro event ends ⟨last, isLast, rfl⟩
    simp [unended last (List.mem_of_getLast? isLast)] at ends
  refine
    { seq := fun position shown => Snapshot.seq_of_map_eq course.seq_eq.1
      log_grows := Snapshot.isChain_log course.isChain_entries.tail.left_of_append
      lines_increase := visited_pairwise course
      changes_then_end := ⟨shots, none, by simp, isChange_of_mem course, by simp⟩
      completed_iff := fun _ => ⟨nofun, fun final => absurd final (unfinal .completed rfl)⟩
      failed_iff := fun _ => ⟨nofun, fun final => absurd final (unfinal .failed rfl)⟩
      last_tells := fun last isLast ends => absurd ⟨last, isLast, rfl⟩ (unfinal last.event ends)
      cancelled_open := fun _ => unended
      rejected_unshown := fun rejected => absurd accepted rejected
      log_eq := ?_ }
  intro last isLast
  rcases course.entries_of_cancelled with ⟨other, isOther, same⟩
  cases Option.some.inj (isLast.symm.trans isOther)
  exact congrArg List.reverse same.symm

/-- The snapshots of a run that has told its outcome are numbered from one. -/
theorem seq_concat {shown : Snapshot}
    (course : Course limits cancels .started (.top (numberLines 0 (Text.lines script))) shots
      ending) (tells : shown.Tells outcome ending.machine) :
    (shots ++ [shown]).map Snapshot.seq = List.range' 1 (shots ++ [shown]).length := by
  rcases course.seq_eq with ⟨numbered, taken⟩
  have taken : ending.machine.taken = 0 + shots.length := taken
  rw [List.map_append, numbered, List.length_append, List.length_singleton, List.range'_1_concat,
    List.map_singleton, tells.seq, taken]
  congr 2
  omega

/-- The last snapshot of a run adds to the log that the one before it shows. -/
theorem isChain_entries_concat {shown : Snapshot}
    (course : Course limits cancels .started (.top (numberLines 0 (Text.lines script))) shots
      ending) (tells : shown.Tells outcome ending.machine) :
    List.IsChain (· <:+ ·) ((shots ++ [shown]).map Snapshot.entries) := by
  rcases tells.entries with ⟨entry, _, entries⟩
  have grows : ending.machine.entries <:+ shown.entries := entries ▸ List.suffix_cons _ _
  rcases List.isChain_append.mp course.isChain_entries.tail with ⟨chain, _, joins⟩
  rw [List.map_append]
  refine List.isChain_append.mpr ⟨chain, .singleton _, ?_⟩
  intro before last after first
  obtain rfl : shown.entries = after := by simpa using first
  exact (joins before last _ rfl).trans grows

theorem of_rejected {rule : Dialect.Rule} (violated : Dialect.violation? script = some rule) :
    RunShape script ⟨.rejected rule, [], [.failed (Outcome.rejected rule).message]⟩ where
  seq position shown found := by simp at found
  log_grows := .nil
  lines_increase := .nil
  changes_then_end := ⟨[], none, rfl, by simp, by simp⟩
  completed_iff accepted := by simp [violated] at accepted
  failed_iff accepted := by simp [violated] at accepted
  last_tells last isLast := by simp [RunResult.final?] at isLast
  cancelled_open cancelled := by simp
  rejected_unshown _ := rfl
  log_eq last isLast := by simp [RunResult.final?] at isLast

theorem of_conclusion {shown : Snapshot} (accepted : Dialect.violation? script = none)
    (course : Course limits cancels .started (.top (numberLines 0 (Text.lines script))) shots
      ending) (tells : shown.Tells outcome ending.machine) :
    RunShape script ⟨outcome, shots ++ [shown], shown.log⟩ := by
  have phases := tells.toIsEnd.phase_iff
  rw [tells.phase] at phases
  have final : ∀ last, (shots ++ [shown]).getLast? = some last ↔ shown = last := by simp
  have shows : ∀ event, shown.event = event ↔
      ∃ last, (shots ++ [shown]).getLast? = some last ∧ last.event = event := by simp
  refine
    { seq := fun position found => Snapshot.seq_of_map_eq (seq_concat course tells)
      log_grows := Snapshot.isChain_log (isChain_entries_concat course tells)
      lines_increase := ?_
      changes_then_end := ⟨shots, some shown, rfl, isChange_of_mem course, ?_⟩
      completed_iff := fun _ => phases.1.trans (shows .completed)
      failed_iff := fun _ => phases.2.trans (shows .failed)
      last_tells := ?_
      cancelled_open := ?_
      rejected_unshown := fun rejected => absurd accepted rejected
      log_eq := fun last isLast => (final last).mp isLast ▸ rfl }
  · rcases tells.entries with ⟨entry, unplaced, entries⟩
    have visited : shown.log.filterMap LogEntry.index? = ending.machine.visited := by
      rw [Snapshot.log, entries, List.reverse_cons, List.filterMap_append,
        List.filterMap_cons_none unplaced, List.filterMap_nil, List.append_nil]
      rfl
    rw [visited]
    exact visited_pairwise course
  · simpa using tells.toIsEnd
  · intro last isLast ends
    rw [← (final last).mp isLast]
    exact ⟨tells.message, tells.report⟩
  · intro cancelled
    have phase : shown.phase = .cancelled := tells.phase.trans cancelled
    rcases tells.event with ⟨_, completed⟩ | ⟨_, failed⟩
    · simp [phase] at completed
    · simp [phase] at failed

end RunShape

/-- Every run that returns leaves snapshots, a log and an outcome of the shape. -/
theorem Engine.run_shape {engine ended : Engine} {script : Text} {speed : Option Value}
    {cancels : Snapshot → Bool} {result : RunResult}
    (returned : engine.run script speed cancels = (ended, .ok result)) :
    RunShape script result := by
  rcases run_cases returned with
    ⟨rule, violated, rfl, _, _⟩ | ⟨accepted, shots, ending, course, left⟩
  · exact RunShape.of_rejected violated
  · rcases left with ⟨_, _, answered⟩
    rcases Ending.of_answer answered.symm with ⟨ends, all, logged⟩
    rcases result with ⟨outcome, snapshots, log⟩
    obtain rfl : snapshots = _ := all
    obtain rfl : log = _ := logged
    unfold Ending.allShots Ending.machineAfter
    cases concluded : ending.conclusion? (Text.lines script) with
    | none =>
      rcases Ending.eq_cancelled ends concluded with ⟨cancelled, rfl⟩
      rw [cancelled] at course
      simpa using RunShape.of_cancelled accepted course
    | some conclusion =>
      rcases conclusion with ⟨after, shown⟩
      rcases Ending.conclusion?_spec ends concluded with ⟨tells, entries⟩
      have logs : after.log = shown.log := congrArg List.reverse entries
      dsimp only
      rw [logs]
      exact RunShape.of_conclusion accepted course tells

/-- A declaration and a comment: one change, and an end that visits no further line. -/
theorem Engine.run_shape_of_declaration :
    ∃ ended result,
      new.run "let a = []\n// done".toList none (fun _ => false) = (ended, .ok result) ∧
      result.snapshots.map Snapshot.event = [.declare, .completed] ∧
      RunShape "let a = []\n// done".toList result := by
  let declared := (Machine.started.visit false ⟨0, "let a = []".toList⟩).written ['a'] (.array [])
  have declares : step .standard .started
      (.top (numberLines 0 (Text.lines "let a = []\n// done".toList))) =
      .go (some .declare) declared (.top [⟨1, "// done".toList⟩]) := by cbv
  have passes : step .standard (declared.showing .declare).1 (.top [⟨1, "// done".toList⟩]) =
      .go none (declared.showing .declare).1 (.top []) := by cbv
  have course : Course .standard (fun _ => false) .started
      (.top (numberLines 0 (Text.lines "let a = []\n// done".toList)))
      [(declared.showing .declare).2] (.finished (declared.showing .declare).1) :=
    .shown declares rfl (.silent passes (.finished rfl))
  have accepted : Dialect.violation? "let a = []\n// done".toList = none := by cbv
  have idle : new.isRunning = false := rfl
  rcases run_ok_of_course idle accepted course rfl with ⟨ended, returned⟩
  refine ⟨ended, _, returned, ?_, run_shape returned⟩
  rw [Ending.allShots, List.map_append]
  rfl

end StepScript

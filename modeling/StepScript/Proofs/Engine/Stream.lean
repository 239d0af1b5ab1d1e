import StepScript.Proofs.Run.Course

/-!
# Streams snapshot by snapshot

What an engine is left with when a stream has given a snapshot: it stands where the snapshot shows
it, and the stream is suspended exactly if the snapshot shows a change (`Engine.next_shows`).  A run
takes its snapshots from a stream in the same way, so that a stream gives as many of them as the run
has shown (`Engine.take_of_run`).
-/

namespace StepScript

/-- The stream stands between two snapshots. -/
def Stream.IsSuspended (stream : Stream) : Prop :=
  ∃ lines control, stream = .suspended lines control

@[simp] theorem Stream.isSuspended_suspended (lines : List Text) (control : Control) :
    (suspended lines control).IsSuspended :=
  ⟨lines, control, rfl⟩

@[simp] theorem Stream.not_isSuspended_unstarted (script : Text) (speed : Option Value) :
    ¬(unstarted script speed).IsSuspended := by
  simp [IsSuspended]

@[simp] theorem Stream.not_isSuspended_settled (outcome : Outcome) :
    ¬(settled outcome).IsSuspended := by
  simp [IsSuspended]

/-- The machine stands where a snapshot shows it. -/
structure Machine.IsShown (machine : Machine) (shown : Snapshot) : Prop where
  environment : machine.environment = shown.environment
  log : machine.log = shown.log
  cursor : machine.cursor = shown.line
  highlight : machine.highlight = shown.highlight

theorem Machine.isShown_snapshot (machine : Machine) (event : Event) (phase : Phase)
    (message : Option String) (report : Option Report) :
    (machine.snapshot event phase message report).1.IsShown
      (machine.snapshot event phase message report).2 :=
  ⟨rfl, rfl, rfl, rfl⟩

theorem endsRun_of_nextStop {limits : Limits} {machine changed : Machine}
    {control reached : Control} {event : Event}
    (stop : nextStop limits machine control = .change event changed reached) :
    event.endsRun = false := by
  fun_induction nextStop limits machine control with
  | case1 machine control silent middle goes ih => exact ih stop
  | case2 machine control found shown middle goes =>
    injection stop with same
    subst same
    exact Step.endsRun_of_go goes
  | case3 | case4 | case5 => simp at stop

namespace Engine

/-- What an engine and the rest of a stream look like behind a snapshot. -/
structure Shows (engine : Engine) (rest : Stream) (shown : Snapshot) : Prop where
  machine : engine.machine.IsShown shown
  stage : shown.event.endsRun = false ∧ engine.phase = .running ∧ rest.IsSuspended ∨
    shown.event.endsRun = true ∧ (engine.phase = .completed ∨ engine.phase = .failed) ∧
      ∃ outcome, rest = .settled outcome ∧ engine.phase = outcome.phase

variable {engine suspended : Engine} {stream rest : Stream} {shown : Snapshot}

theorem advance_shows {lines : List Text} {control : Control}
    (answer : engine.advance lines control = (suspended, .snapshot shown rest)) :
    suspended.Shows rest shown := by
  unfold advance at answer
  split at answer
  next event machine reached stop =>
    rcases Prod.mk.inj answer with ⟨rfl, given⟩
    injection given with same left
    subst same left
    constructor
    · exact Machine.isShown_snapshot machine event .running none none
    · exact .inl ⟨endsRun_of_nextStop stop, rfl, lines, reached, rfl⟩
  next machine stop =>
    rcases Prod.mk.inj answer with ⟨rfl, given⟩
    injection given with same left
    subst same left
    constructor
    · exact Machine.isShown_snapshot _ _ _ _ _
    · exact .inr ⟨rfl, .inl rfl, .completed, rfl, rfl⟩
  next machine cause stop =>
    rcases Prod.mk.inj answer with ⟨rfl, given⟩
    injection given with same left
    subst same left
    constructor
    · exact Machine.isShown_snapshot _ _ _ _ _
    · exact .inr ⟨rfl, .inr rfl, _, rfl, rfl⟩
  next => simp at answer

theorem next_shows (answer : engine.next stream = (suspended, .snapshot shown rest)) :
    suspended.Shows rest shown := by
  cases stream with
  | unstarted script speed =>
    simp only [next, start] at answer
    split at answer
    · simp at answer
    · split at answer
      · simp at answer
      · split at answer
        · simp at answer
        · exact advance_shows answer
  | suspended lines control =>
    simp only [next] at answer
    split at answer
    · simp at answer
    · exact advance_shows answer
  | settled outcome => simp [next] at answer

theorem Shows.isRunning (shows : engine.Shows rest shown) (suspended : rest.IsSuspended) :
    engine.isRunning = true := by
  rcases shows.stage with ⟨_, phase, _⟩ | ⟨_, _, outcome, rfl, _⟩
  · simp [Engine.isRunning, phase]
  · simp at suspended

/-- Asks a stream for a number of snapshots, unless it ends before: the snapshots, the engine behind
them and what is left of the stream. -/
def take (engine : Engine) (stream : Stream) : Nat → Option (List Snapshot × Engine × Stream)
  | 0 => some ([], engine, stream)
  | count + 1 =>
    match engine.next stream with
    | (suspended, .snapshot shown rest) =>
      (suspended.take rest count).map fun (later, left) => (shown :: later, left)
    | _ => none

theorem take_of_snapshot {later : List Snapshot} {left : Engine × Stream} {count : Nat}
    (answer : engine.next stream = (suspended, .snapshot shown rest))
    (taken : suspended.take rest count = some (later, left)) :
    engine.take stream (count + 1) = some (shown :: later, left) := by
  rw [take, answer]
  simp [taken]

/-- A stream that does not give a number of snapshots gives fewer and ends. -/
theorem ends_of_take {count : Nat} (ended : engine.take stream (count + 1) = none) :
    ∃ shots left rest, shots.length ≤ count ∧
      engine.take stream shots.length = some (shots, left, rest) ∧
      ∀ shown more, (left.next rest).2 ≠ .snapshot shown more := by
  induction count generalizing engine stream with
  | zero =>
    refine ⟨[], engine, stream, Nat.le_refl 0, rfl, ?_⟩
    intro shown more answer
    have given : engine.next stream = ((engine.next stream).1, .snapshot shown more) :=
      Prod.ext rfl answer
    rw [take, given] at ended
    simp [take] at ended
  | succ count ih =>
    rw [take] at ended
    split at ended
    next suspended shown rest answer =>
      rcases ih (Option.map_eq_none_iff.mp ended) with ⟨shots, left, behind, fewer, taken, ends⟩
      exact ⟨shown :: shots, left, behind, Nat.succ_le_succ fewer, take_of_snapshot answer taken,
        ends⟩
    next unsuited =>
      refine ⟨[], engine, stream, Nat.zero_le _, rfl, ?_⟩
      intro shown more answer
      exact unsuited _ shown more (Prod.ext rfl answer)

/-- A run that takes a number of snapshots from a stream goes on with what is left of it. -/
theorem drive_of_take {count : Nat} {shots seen : List Snapshot} {left : Engine}
    (taken : engine.take stream count = some (shots, left, rest)) :
    drive (fun _ => false) engine stream seen =
      drive (fun _ => false) left rest (shots.reverse ++ seen) := by
  induction count generalizing engine stream shots seen with
  | zero =>
    simp only [take, Option.some.injEq, Prod.mk.injEq] at taken
    rcases taken with ⟨rfl, rfl, rfl⟩
    rfl
  | succ count ih =>
    rw [take] at taken
    split at taken
    next suspended shown behind answer =>
      simp only [Option.map_eq_some_iff, Prod.exists, Prod.mk.injEq] at taken
      rcases taken with ⟨later, other, ending, taken, rfl, rfl, rfl⟩
      rw [drive_of_snapshot answer, observe, if_neg Bool.false_ne_true, ih taken]
      simp
    next => simp at taken

/-- What a run leaves behind is what the last answer of its stream leaves behind. -/
theorem engine_of_drive {seen : List Snapshot}
    (ends : ∀ shown more, (engine.next stream).2 ≠ .snapshot shown more) :
    (drive (fun _ => false) engine stream seen).1 = (engine.next stream).1 := by
  cases answer : engine.next stream with
  | mk left reply =>
    cases reply with
    | snapshot shown more => exact absurd (congrArg Prod.snd answer) (ends shown more)
    | outcome reached => rw [drive_of_outcome answer]
    | interrupted cause => rw [drive_of_interruption answer]

/-- A stream gives the snapshots that a run takes from it, and stands then where they show it.  If
nothing but the outcome is left of the stream then, it is that of the run. -/
theorem take_of_drive {ended : Engine} {seen : List Snapshot} {result : RunResult}
    (returned : drive (fun _ => false) engine stream seen = (ended, .ok result)) :
    ∃ shots, result.snapshots = seen.reverse ++ shots ∧
      ∀ position shown, shots[position]? = some shown → ∃ left rest,
        engine.take stream (position + 1) = some (shots.take (position + 1), left, rest) ∧
        (∀ outcome, rest = .settled outcome → result.outcome = outcome) ∧
        left.Shows rest shown := by
  fun_induction drive (fun _ => false) engine stream seen with
  | case1 engine stream seen suspended shown rest answer ih =>
    rcases ih returned with ⟨shots, all, gives⟩
    refine ⟨shown :: shots, by simp [all], ?_⟩
    intro position other found
    cases position with
    | zero =>
      obtain rfl : shown = other := by simpa using found
      refine ⟨suspended, rest, take_of_snapshot answer rfl, ?_, next_shows answer⟩
      rintro outcome rfl
      rw [drive_of_outcome rfl] at returned
      rcases Prod.mk.inj returned with ⟨_, same⟩
      rw [← Except.ok.inj same]
    | succ position =>
      have later : shots[position]? = some other := by simpa using found
      rcases gives position other later with ⟨left, behind, taken, settled, shows⟩
      exact ⟨left, behind, take_of_snapshot answer taken, settled, shows⟩
  | case2 engine stream seen ended outcome answer =>
    rcases Prod.mk.inj returned with ⟨_, same⟩
    rw [← Except.ok.inj same]
    exact ⟨[], by simp, by simp⟩
  | case3 engine stream seen stopped cause answer => simp at returned

theorem take_of_run {script : Text} {speed : Option Value} {ended : Engine} {result : RunResult}
    {position : Nat}
    (returned : engine.run script speed (fun _ => false) = (ended, .ok result))
    (found : result.snapshots[position]? = some shown) :
    ∃ left rest,
      engine.take (.unstarted script speed) (position + 1) =
        some (result.snapshots.take (position + 1), left, rest) ∧
      (∀ outcome, rest = .settled outcome → result.outcome = outcome) ∧ left.Shows rest shown := by
  rcases take_of_drive returned with ⟨shots, all, gives⟩
  obtain rfl : shots = result.snapshots := by simpa using all.symm
  exact gives position shown found

end Engine

end StepScript

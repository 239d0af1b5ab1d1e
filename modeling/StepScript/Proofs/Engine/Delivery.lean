import StepScript.Engine.Delivery
import StepScript.Proofs.Engine.Stream

/-!
# Items of a run

A run that returns has taken its snapshots and its outcome from a stream.  Whoever asks the stream
otherwise is given the same items: a reader who takes all of them, one who stops early, and one who
asks for some of them now and for others later.
-/

namespace StepScript

/-- The items of a run: its snapshots, and the outcome behind them. -/
def RunResult.items (result : RunResult) : List Item :=
  result.snapshots.map .snapshot ++ [.outcome result.outcome]

/-- Cuts a list into groups of given sizes, as far as it reaches. -/
def groups {α : Type} : List Nat → List α → List (List α)
  | [], _ => []
  | size :: sizes, items => items.take size :: groups sizes (items.drop size)

theorem Course.phase_ne_cancelled {limits : Limits} {machine : Machine} {control : Control}
    {shots : List Snapshot} {ending : Ending}
    (course : Course limits (fun _ => false) machine control shots ending) :
    ending.phase ≠ .cancelled := by
  induction course with
  | silent goes rest ih => exact ih
  | shown goes kept rest ih => exact ih
  | cancelled goes stopped => simp at stopped
  | finished | faulted | broken => simp [Ending.phase]

namespace Engine

variable {engine suspended ended : Engine} {stream rest : Stream} {items : List Item}

/-- A stream that is asked to the end gives items, the last of them an outcome, and leaves an engine
behind. -/
inductive Supplies : Engine → Stream → List Item → Engine → Prop
  | outcome {engine ended : Engine} {stream : Stream} {reached : Outcome}
      (answer : engine.next stream = (ended, .outcome reached)) :
      Supplies engine stream [.outcome reached] ended
  | snapshot {engine suspended ended : Engine} {stream rest : Stream} {shown : Snapshot}
      {items : List Item} (answer : engine.next stream = (suspended, .snapshot shown rest))
      (later : Supplies suspended rest items ended) :
      Supplies engine stream (.snapshot shown :: items) ended

/-- A run takes its items from its stream. -/
theorem supplies_of_drive {seen : List Snapshot} {result : RunResult}
    (returned : drive (fun _ => false) engine stream seen = (ended, .ok result)) :
    ∃ items, result.items = seen.reverse.map .snapshot ++ items ∧
      Supplies engine stream items ended := by
  fun_induction drive (fun _ => false) engine stream seen with
  | case1 engine stream seen suspended shown rest answer ih =>
    rcases ih returned with ⟨items, all, supplies⟩
    refine ⟨.snapshot shown :: items, by simp [all], .snapshot answer ?_⟩
    simpa [observe] using supplies
  | case2 engine stream seen ended outcome answer =>
    rcases Prod.mk.inj returned with ⟨rfl, same⟩
    rw [← Except.ok.inj same]
    exact ⟨[.outcome outcome], rfl, .outcome answer⟩
  | case3 engine stream seen stopped cause answer => simp at returned

theorem supplies_of_run {script : Text} {speed : Option Value} {result : RunResult}
    (returned : engine.run script speed (fun _ => false) = (ended, .ok result)) :
    Supplies engine (.unstarted script speed) result.items ended := by
  rcases supplies_of_drive returned with ⟨items, all, supplies⟩
  obtain rfl : result.items = items := by simpa using all
  exact supplies

theorem phase_ne_cancelled_of_run {script : Text} {speed : Option Value} {result : RunResult}
    (returned : engine.run script speed (fun _ => false) = (ended, .ok result)) :
    ended.phase ≠ .cancelled := by
  rcases run_cases returned with ⟨_, _, _, phase, _⟩ | ⟨_, shots, ending, course, phase, _, _⟩
  · simp [phase]
  · exact phase ▸ course.phase_ne_cancelled

/-! ## Delivery item by item -/

section Deliver

variable {delivered : List Item}

theorem deliver_of_outcome {room : Option Nat} {reached : Outcome} (takes : room ≠ some 0)
    (answer : engine.next stream = (ended, .outcome reached)) :
    engine.deliver stream room delivered =
      (ended, .ok (.outcome reached :: delivered).reverse) := by
  rw [deliver]
  · split <;> simp_all
  · exact takes

theorem deliver_of_snapshot {room : Option Nat} {shown : Snapshot} (takes : room ≠ some 0)
    (answer : engine.next stream = (suspended, .snapshot shown rest)) :
    engine.deliver stream room delivered =
      suspended.deliver rest (room.map (· - 1)) (.snapshot shown :: delivered) := by
  rw [deliver]
  · split <;> simp_all
  · exact takes

/-- A reader without a bound takes all items. -/
theorem Supplies.deliver (supplies : Supplies engine stream items ended) :
    engine.deliver stream none delivered = (ended, .ok (delivered.reverse ++ items)) := by
  induction supplies generalizing delivered with
  | outcome answer =>
    rw [deliver_of_outcome (by simp) answer]
    simp
  | snapshot answer later ih =>
    rw [deliver_of_snapshot (by simp) answer, Option.map_none, ih]
    simp

theorem phase_of_next {shown : Snapshot}
    (answer : engine.next stream = (suspended, .snapshot shown rest)) :
    suspended.phase = shown.phase := by
  have advanced : ∀ {advancing : Engine} {lines : List Text} {control : Control},
      advancing.advance lines control = (suspended, .snapshot shown rest) →
        suspended.phase = shown.phase := by
    intro advancing lines control answer
    unfold advance at answer
    split at answer
    case h_4 => simp at answer
    all_goals
      rcases Prod.mk.inj answer with ⟨rfl, given⟩
      injection given with same
      exact same ▸ rfl
  cases stream with
  | unstarted script speed =>
    simp only [next, start] at answer
    split at answer
    · simp at answer
    · split at answer
      · simp at answer
      · split at answer
        · simp at answer
        · exact advanced answer
  | suspended lines control =>
    simp only [next] at answer
    split at answer
    · simp at answer
    · exact advanced answer
  | settled outcome => simp [next] at answer

/-- A stream that is given up behind a snapshot is cancelled if the snapshot shows it running. -/
theorem close_phase_of_next {shown : Snapshot}
    (answer : engine.next stream = (suspended, .snapshot shown rest)) :
    (suspended.close rest).phase = .cancelled ↔ shown.phase = .running := by
  have phase := phase_of_next answer
  rcases (next_shows answer).stage with
    ⟨_, running, lines, control, rfl⟩ | ⟨_, reached, outcome, rfl, _⟩
  · simp [close, ← phase, running]
  · rcases reached with completed | failed
    · simp [close, ← phase, completed]
    · simp [close, ← phase, failed]

/-- A reader with room for some items takes the first of them, and leaves the engine cancelled if
the last of them shows the run under way. -/
theorem Supplies.deliver_some (supplies : Supplies engine stream items ended)
    (kept : ended.phase ≠ .cancelled) (count : Nat) :
    ∃ left, engine.deliver stream (some (count + 1)) delivered =
        (left, .ok (delivered.reverse ++ items.take (count + 1))) ∧
      (left.phase = .cancelled ↔
        ∃ shown, items[count]? = some (.snapshot shown) ∧ shown.phase = .running) := by
  induction supplies generalizing count delivered with
  | @outcome engine ended stream reached answer =>
    rw [deliver_of_outcome (by simp) answer]
    refine ⟨ended, by simp, iff_of_false kept ?_⟩
    rintro ⟨shown, found, _⟩
    cases count <;> simp at found
  | @snapshot engine suspended ended stream rest shown items answer later ih =>
    rw [deliver_of_snapshot (by simp) answer, Option.map_some, Nat.add_sub_cancel]
    cases count with
    | zero =>
      refine ⟨suspended.close rest, by simp [Engine.deliver], ?_⟩
      simpa using close_phase_of_next answer
    | succ count =>
      rcases @ih (.snapshot shown :: delivered) kept count with ⟨left, taken, phase⟩
      exact ⟨left, by simp [taken], by simpa using phase⟩

end Deliver

/-! ## Calls in groups -/

/-- Asks for a number of items: the items, the engine behind them and what is left of the stream.
Behind its outcome a stream gives nothing. -/
def pull (engine : Engine) (stream : Option Stream) :
    Nat → Except Interruption (List Item × Engine × Option Stream)
  | 0 => .ok ([], engine, stream)
  | count + 1 =>
    match stream with
    | none => .ok ([], engine, none)
    | some remaining =>
      match engine.next remaining with
      | (suspended, .snapshot shown rest) =>
        (suspended.pull (some rest) count).map fun (later, left) => (.snapshot shown :: later, left)
      | (ended, .outcome reached) => .ok ([.outcome reached], ended, none)
      | (_, .interrupted cause) => .error cause

/-- Asks for items in groups, one group after the other. -/
def pullGroups (engine : Engine) (stream : Option Stream) :
    List Nat → Except Interruption (List (List Item) × Engine × Option Stream)
  | [] => .ok ([], engine, stream)
  | size :: sizes =>
    match engine.pull stream size with
    | .error cause => .error cause
    | .ok (first, behind, rest) =>
      (behind.pullGroups rest sizes).map fun (later, left) => (first :: later, left)

/-- What is left of a stream gives the items that are left; a stream that has ended gives none. -/
def Remains (engine : Engine) (stream : Option Stream) (items : List Item)
    (ended : Engine) : Prop :=
  match stream with
  | none => items = [] ∧ engine = ended
  | some stream => Supplies engine stream items ended

theorem Remains.eq_of_nil {stream : Option Stream} (remains : Remains engine stream [] ended) :
    engine = ended ∧ stream = none := by
  cases stream with
  | none => exact ⟨remains.2, rfl⟩
  | some stream => nomatch (remains : Supplies engine stream [] ended)

theorem Remains.pull {stream : Option Stream} (remains : Remains engine stream items ended)
    (count : Nat) :
    ∃ behind rest, engine.pull stream count = .ok (items.take count, behind, rest) ∧
      Remains behind rest (items.drop count) ended := by
  induction count generalizing engine stream items with
  | zero => exact ⟨engine, stream, rfl, remains⟩
  | succ count ih =>
    cases stream with
    | none =>
      rcases remains with ⟨rfl, rfl⟩
      exact ⟨engine, none, rfl, rfl, rfl⟩
    | some stream =>
      cases (remains : Supplies engine stream items ended) with
      | outcome answer => exact ⟨ended, none, by simp [Engine.pull, answer], by simp [Remains]⟩
      | @snapshot engine suspended ended stream next shown items answer later =>
        have remaining : Remains suspended (some next) items ended := later
        rcases ih remaining with ⟨behind, rest, pulled, left⟩
        exact ⟨behind, rest, by simp [Engine.pull, answer, pulled, Except.map], left⟩

/-- However the calls are grouped, they give the same items in the same order. -/
theorem Remains.pullGroups {stream : Option Stream} (remains : Remains engine stream items ended)
    (sizes : List Nat) :
    ∃ behind rest, engine.pullGroups stream sizes = .ok (groups sizes items, behind, rest) ∧
      Remains behind rest (items.drop sizes.sum) ended := by
  induction sizes generalizing engine stream items with
  | nil => exact ⟨engine, stream, rfl, by simpa using remains⟩
  | cons size sizes ih =>
    rcases remains.pull size with ⟨between, middle, pulled, remaining⟩
    rcases ih remaining with ⟨behind, rest, later, left⟩
    refine ⟨behind, rest, by simp [Engine.pullGroups, pulled, later, Except.map, groups], ?_⟩
    simpa [List.drop_drop] using left

end Engine

end StepScript

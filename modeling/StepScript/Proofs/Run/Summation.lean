import StepScript.Proofs.Dialect
import StepScript.Proofs.Expression.Evaluation
import StepScript.Proofs.Json.Array
import StepScript.Proofs.Run.Course
import StepScript.Proofs.Run.Operation
import StepScript.Proofs.Statement.Recognition

/-!
# Summing an array

A loop over the cells of an array adds them to a sum that starts at zero.  The induction is on the
rounds that are left: in front of each test the machine holds the sum of the cells so far
(`Summation.Holds`), and one round adds the next cell, which it highlights
(`Summation.exists_round`).  How the array is written makes no difference, nor do the line ends of
the script (`Engine.run_sums`).
-/

namespace StepScript

namespace Number

/-- The doubles count up to a number: they hold each natural number on the way, adding one leads
from each to the next, and each is told apart from the last. -/
structure CountsTo (last : Nat) : Prop where
  natural : ∀ count ≤ last, natural? (Float.ofNat count) = some count
  next : ∀ count < last, Float.ofNat count + 1 = Float.ofNat (count + 1)
  less : ∀ count ≤ last, Float.ofNat count < Float.ofNat last ↔ count < last

end Number

namespace Summation

open StepScript.Expr

/-! ## The expressions of the loop -/

def array : Identifier :=
  ⟨'a', ['r', 'r'], by decide, by simp, by decide⟩

def total : Identifier :=
  ⟨'s', ['u', 'm'], by decide, by simp, by decide⟩

def counter : Identifier :=
  ⟨'i', [], by decide, by simp, by decide⟩

theorem evaluateText_of_parse {source : Text} {environment : Environment} {tree : Tree}
    (stripped : stripStatement source = source) (spoken : source ≠ [])
    (read : parseExpression source = .ok tree) (allowed : checkTree source tree = .ok ()) :
    evaluateText source environment = tree.evaluate environment source nestingLimit := by
  simp only [evaluateText, stripped, List.isEmpty_iff, spoken, read, if_false]
  change (checkTree source tree >>= fun _ => _) = _
  rw [allowed]
  rfl

theorem evaluate_length {environment : Environment} {cells : List Value}
    (held : Environment.find? "arr".toList environment = some (.array cells)) :
    evaluateText "arr.length".toList environment = .ok (.number (Float.ofNat cells.length)) := by
  obtain ⟨tree, read, writes⟩ := (Expr.length (.name array)).parseExpression_print (by decide)
  cases writes with
  | length span target =>
  cases target
  have stripped : stripStatement "arr.length".toList = "arr.length".toList := rfl
  have found : Environment.find? array.text environment = some (.array cells) := held
  rw [evaluateText_of_parse stripped (by simp) read rfl]
  simp only [nestingLimit, Tree.evaluate, Tree.lookUp, found, if_true]
  rfl

theorem evaluate_sum {environment : Environment} {cells : List Value} {sum value number : Float}
    {place : Nat}
    (summed : Environment.find? "sum".toList environment = some (.number sum))
    (held : Environment.find? "arr".toList environment = some (.array cells))
    (counted : Environment.find? "i".toList environment = some (.number value))
    (natural : Number.natural? value = some place) (cell : cells[place]? = some (.number number)) :
    evaluateText "sum + arr[i]".toList environment = .ok (.number (sum + number)) := by
  obtain ⟨tree, read, writes⟩ := (Expr.binary .plus (.name total)
    (.subscript (.name array) (.name counter))).parseExpression_print (by decide)
  cases writes with
  | binary span _ before behind =>
  cases before
  cases behind with
  | subscript span target index =>
  cases target
  cases index
  have stripped : stripStatement "sum + arr[i]".toList = "sum + arr[i]".toList := rfl
  have within : place < cells.length := (List.getElem?_eq_some_iff.mp cell).1
  have total : Environment.find? total.text environment = some (.number sum) := summed
  have array : Environment.find? array.text environment = some (.array cells) := held
  have counter : Environment.find? counter.text environment = some (.number value) := counted
  have position (part : Text) : (Value.number value).position cells.length part = .ok place := by
    simp [Value.position, natural, Option.filter, within]
  rw [evaluateText_of_parse stripped (by simp) read rfl]
  simp only [nestingLimit, Tree.evaluate, Tree.lookUp, total, array, counter, Tree.isSlice,
    Bool.false_eq_true, if_false]
  simp only [bind, Except.bind, position, cell]
  rfl

/-! ## The script -/

/-- The lines of a script that sums the cells of an array. -/
def lines (literal : Text) : List Text :=
  ["let arr = ".toList ++ literal ++ [';'], "let sum = 0;".toList,
    "for (let i = 0; i < arr.length; i++) \x7b".toList, "sum = sum + arr[i];".toList, ['\x7d']]

def statement : Line :=
  ⟨3, "sum = sum + arr[i];".toList⟩

/-- The frame of the loop, once some rounds have begun. -/
def frame (rounds : Nat) : Frame :=
  ⟨counter.text, Float.ofNat 0, counter.text, .less, "arr.length".toList, 1, [statement], 2, 4,
    rounds⟩

/-- The variables of the script: the array, the sum and, once a round has begun, the counter. -/
def bindings (numbers : List Float) (sum : Float) (count : Option Float) : Environment :=
  (array.text, .array (numbers.map .number)) :: (total.text, .number sum) ::
    (count.map fun value => (counter.text, .number value)).toList

/-- The machine holds the variables of the script, shows the array and knows no constants. -/
structure Holds (numbers : List Float) (sum : Float) (count : Option Float) (machine : Machine) :
    Prop where
  environment : machine.environment = bindings numbers sum count
  arrayName : machine.arrayName = some array.text
  constants : machine.constants = []

section Variables

variable (numbers : List Float) (sum : Float) (count : Option Float)

@[simp] theorem find?_array :
    Environment.find? array.text (bindings numbers sum count) =
      some (.array (numbers.map .number)) := rfl

@[simp] theorem find?_total :
    Environment.find? total.text (bindings numbers sum count) = some (.number sum) := rfl

@[simp] theorem find?_counter :
    Environment.find? counter.text (bindings numbers sum count) = count.map .number := by
  cases count <;> rfl

@[simp] theorem bind_total (value : Float) :
    Environment.bind total.text (.number value) (bindings numbers sum count) =
      bindings numbers value count := rfl

@[simp] theorem bind_counter (value : Float) :
    Environment.bind counter.text (.number value) (bindings numbers sum count) =
      bindings numbers sum (some value) := by
  cases count <;> rfl

end Variables

namespace Holds

variable {numbers : List Float} {sum : Float} {count : Option Float} {machine : Machine}

theorem showing (holds : Holds numbers sum count machine) (event : Event) :
    Holds numbers sum count (machine.showing event).1 :=
  ⟨holds.environment, holds.arrayName, holds.constants⟩

theorem shows (holds : Holds numbers sum count machine) (event : Event) :
    (machine.showing event).2.value? array.text = some (.array (numbers.map .number)) := by
  change Environment.find? array.text machine.environment = _
  rw [holds.environment, find?_array]

/-- The last snapshot of a run that completes shows the array, too. -/
theorem concludes (holds : Holds numbers sum count machine) :
    (machine.concluding .completed .completed .completed .completed).2.value? array.text =
      some (.array (numbers.map .number)) := by
  change Environment.find? array.text machine.environment = _
  rw [holds.environment, find?_array]

theorem written_counter (holds : Holds numbers sum count machine) (value : Float) :
    Holds numbers sum (some value) (machine.written counter.text (.number value)) where
  environment := by
    change Environment.bind _ _ machine.environment = _
    rw [holds.environment, bind_counter]
  arrayName := holds.arrayName
  constants := holds.constants

theorem written_total (holds : Holds numbers sum count machine) (value : Float) :
    Holds numbers value count (machine.written total.text (.number value)) where
  environment := by
    change Environment.bind _ _ machine.environment = _
    rw [holds.environment, bind_total]
  arrayName := holds.arrayName
  constants := holds.constants

/-- Any variable can be written. -/
theorem bind_eq (holds : Holds numbers sum count machine) (name : Text) (value : Value)
    (line : Option Nat) : machine.bind name value line = .ok (machine.written name value) :=
  if_neg (by simp [Machine.constantLine?, holds.constants])

end Holds

/-! ## A round -/

section Round

variable {limits : Limits} {numbers : List Float} {sum : Float} {count : Option Float}
  {machine : Machine} {place : Nat}

/-- The loop goes on as long as there is a cell for its counter. -/
theorem goesOn_eq (rounds : Nat) (holds : Holds numbers sum count machine)
    (counts : Number.CountsTo numbers.length) (within : place ≤ numbers.length) :
    Machine.goesOn (frame rounds) (Float.ofNat place) machine.environment =
      .ok (decide (place < numbers.length)) := by
  have scope : Environment.bind (frame rounds).counter (.number (Float.ofNat place))
      machine.environment = bindings numbers sum (some (Float.ofNat place)) := by
    rw [holds.environment]
    exact bind_counter numbers sum count _
  have tested : Environment.find? (frame rounds).tested
      (bindings numbers sum (some (Float.ofNat place))) = some (.number (Float.ofNat place)) :=
    find?_counter numbers sum _
  have bound : evaluateText (frame rounds).bound
      (bindings numbers sum (some (Float.ofNat place))) =
        .ok (.number (Float.ofNat numbers.length)) := by
    rw [← @List.length_map _ _ numbers Value.number]
    exact evaluate_length (find?_array numbers sum _)
  simp only [Machine.goesOn, scope, tested, bound]
  change Except.ok (decide (Float.ofNat place < Float.ofNat numbers.length)) = _
  rw [decide_eq_decide.mpr (counts.less place within)]

/-- A round begins with the counter bound and highlights the cell. -/
theorem exists_begin (holds : Holds numbers sum count machine)
    (counts : Number.CountsTo numbers.length) (within : place < numbers.length)
    (few : ((place + 1 : Nat) : Int) ≤ limits.maxLoop) :
    ∃ bound, step limits machine (.test (frame place) (Float.ofNat place) []) =
        .go (some .bind) bound (.body (frame (place + 1)) [statement] []) ∧
      Holds numbers sum (some (Float.ofNat place)) bound ∧ bound.highlight = some place ∧
      bound.steps = machine.steps := by
  have counted : Holds numbers sum count (machine.countRound (frame place)).1 :=
    ⟨holds.environment, holds.arrayName, holds.constants⟩
  have written := counted.written_counter (Float.ofNat place)
  have shown : ((machine.countRound (frame place)).1.written counter.text
      (.number (Float.ofNat place))).highlightFor (Float.ofNat place) = some place := by
    have view : ((machine.countRound (frame place)).1.written counter.text
        (.number (Float.ofNat place))).shownArray? =
          some (array.text, numbers.map .number) := by
      simp only [Machine.shownArray?, written.environment, written.arrayName]
      rfl
    simp [Machine.highlightFor, counts.natural place within.le, view, within]
  have begun : (machine.countRound (frame place)).1.beginRound
      (machine.countRound (frame place)).2 (Float.ofNat place) =
        .ok { (machine.countRound (frame place)).1.written counter.text
            (.number (Float.ofNat place)) with highlight := some place, cursor := some 2 } := by
    rw [← shown]
    exact Machine.beginRound_of_bind (counted.bind_eq counter.text _ none)
  have goesOn := goesOn_eq place holds counts within.le
  rw [decide_eq_true within] at goesOn
  refine ⟨_, Step.step_of_rule (.roundBegun goesOn (not_lt.mpr few) begun),
    ⟨written.environment, written.arrayName, written.constants⟩, rfl, rfl⟩

/-- The statement of the loop adds the cell of the counter to the sum. -/
theorem exists_add {rounds : Nat} {number : Float}
    (holds : Holds numbers sum (some (Float.ofNat place)) machine)
    (counts : Number.CountsTo numbers.length) (cell : numbers[place]? = some number)
    (few : ((machine.steps + 1 : Nat) : Int) ≤ limits.maxSteps) :
    ∃ added, step limits machine (.body (frame rounds) [statement] []) =
        .go (some .assign) added (.body (frame rounds) [] []) ∧
      Holds numbers (sum + number) (some (Float.ofNat place)) added ∧
      added.steps = machine.steps + 1 := by
  have classified : classify statement.text =
      .ok (.assignment total.text "sum + arr[i]".toList none) := by
    change classify "sum = sum + arr[i];".toList = .ok (.assignment "sum".toList _ none)
    cbv
  have visited : Holds numbers sum (some (Float.ofNat place)) (machine.visit true statement) :=
    ⟨holds.environment, holds.arrayName, holds.constants⟩
  have within : place ≤ numbers.length := (List.getElem?_eq_some_iff.mp cell).1.le
  have evaluated : evaluateText "sum + arr[i]".toList (machine.visit true statement).environment =
      .ok (.number (sum + number)) := by
    rw [visited.environment]
    exact evaluate_sum (find?_total numbers sum _) (find?_array numbers sum _)
      (find?_counter numbers sum _) (counts.natural place within) (by simp [cell])
  have assigned : (machine.visit true statement).assign total.text "sum + arr[i]".toList none =
      .ok ((machine.visit true statement).written total.text (.number (sum + number))) := by
    simp only [Machine.assign, evaluated]
    exact visited.bind_eq total.text _ none
  refine ⟨_, ?_, visited.written_total (sum + number), rfl⟩
  exact Step.step_of_rule (@Step.Rule.assigned _ _ (.body (frame rounds) []) _ _ _ _ _ _
    classified (not_lt.mpr few) assigned)

/-- A round ends with the next count. -/
theorem exists_end {rounds : Nat} (holds : Holds numbers sum (some (Float.ofNat place)) machine)
    (next : Float.ofNat place + 1 = Float.ofNat (place + 1)) :
    ∃ changed, step limits machine (.body (frame rounds) [] []) =
        .go (some .increment) changed (.test (frame rounds) (Float.ofNat (place + 1)) []) ∧
      Holds numbers sum (some (Float.ofNat (place + 1))) changed ∧
      changed.steps = machine.steps := by
  have found : Environment.find? (frame rounds).counter machine.environment =
      some (.number (Float.ofNat place)) := by
    rw [holds.environment]
    exact find?_counter numbers sum _
  have written := holds.written_counter (Float.ofNat (place + 1))
  have ended : machine.endRound (frame rounds) =
      .ok ({ machine.written counter.text (.number (Float.ofNat (place + 1))) with
        cursor := some 2 }, Float.ofNat (place + 1)) := by
    rw [← next]
    exact Machine.endRound_of_bind found rfl (holds.bind_eq counter.text _ none)
  refine ⟨_, Step.step_of_rule (.incremented ended), ?_, rfl⟩
  exact ⟨written.environment, written.arrayName, written.constants⟩

end Round

/-! ## The loop -/

/-- The counter in front of a test: it is bound once a round has begun. -/
def countAt (place : Nat) : Option Float :=
  if place = 0 then none else some (Float.ofNat place)

def sumBefore (numbers : List Float) (place : Nat) : Float :=
  (numbers.take place).foldl (· + ·) 0

/-- The binds among some snapshots, by the cells that they highlight. -/
def highlights (shots : List Snapshot) : List (Option Nat) :=
  (shots.filter fun shown => shown.event = .bind).map (·.highlight)

/-- What the snapshots of some rounds show: three for each round, of which one binds the counter and
highlights the cell of the round, and all of them the array. -/
structure Rounds (numbers : List Float) (first rounds : Nat) (shots : List Snapshot) : Prop where
  length : shots.length = 3 * rounds
  highlights : highlights shots = (List.range' first rounds).map some
  array : ∀ shown ∈ shots, shown.value? array.text = some (.array (numbers.map .number))

theorem highlights_append (shots rest : List Snapshot) :
    highlights (shots ++ rest) = highlights shots ++ highlights rest := by
  simp [highlights]

theorem sumBefore_succ {numbers : List Float} {place : Nat} {number : Float}
    (cell : numbers[place]? = some number) :
    sumBefore numbers (place + 1) = sumBefore numbers place + number := by
  rw [sumBefore, sumBefore, List.take_add_one, cell, Option.toList_some, List.foldl_append]
  rfl

section Loop

variable {limits : Limits} {numbers : List Float} {machine : Machine}

/-- A round adds the cell at its place. -/
theorem exists_round {place : Nat} {number : Float}
    (holds : Holds numbers (sumBefore numbers place) (countAt place) machine)
    (counts : Number.CountsTo numbers.length) (cell : numbers[place]? = some number)
    (fewRounds : ((place + 1 : Nat) : Int) ≤ limits.maxLoop)
    (fewSteps : ((machine.steps + 1 : Nat) : Int) ≤ limits.maxSteps) :
    ∃ (changed : Machine) (shots : List Snapshot),
      Holds numbers (sumBefore numbers (place + 1)) (countAt (place + 1)) changed ∧
      changed.steps = machine.steps + 1 ∧ Rounds numbers place 1 shots ∧
      ∀ {rest : List Snapshot} {ending : Ending},
        Course limits (fun _ => false) changed
          (.test (frame (place + 1)) (Float.ofNat (place + 1)) []) rest ending →
        Course limits (fun _ => false) machine (.test (frame place) (Float.ofNat place) [])
          (shots ++ rest) ending := by
  have within : place < numbers.length := (List.getElem?_eq_some_iff.mp cell).1
  obtain ⟨bound, begins, boundHolds, lit, boundSteps⟩ :=
    exists_begin holds counts within fewRounds
  have few : (((bound.showing .bind).1.steps + 1 : Nat) : Int) ≤ limits.maxSteps := by
    change ((bound.steps + 1 : Nat) : Int) ≤ _
    rwa [boundSteps]
  obtain ⟨added, adds, addedHolds, addedSteps⟩ :=
    exists_add (boundHolds.showing .bind) counts cell few
  obtain ⟨changed, ends, changedHolds, changedSteps⟩ :=
    exists_end (addedHolds.showing .assign) (counts.next place within)
  refine ⟨(changed.showing .increment).1,
    [(bound.showing .bind).2, (added.showing .assign).2, (changed.showing .increment).2],
    ?_, ?_, ?_, fun rest => .shown begins rfl (.shown adds rfl (.shown ends rfl rest))⟩
  · rw [sumBefore_succ cell, countAt, if_neg (Nat.succ_ne_zero place)]
    exact changedHolds.showing .increment
  · change changed.steps = machine.steps + 1
    change changed.steps = added.steps at changedSteps
    change added.steps = bound.steps + 1 at addedSteps
    rw [changedSteps, addedSteps, boundSteps]
  · exact
      { length := rfl
        highlights := by
          change [bound.highlight] = [some place]
          rw [lit]
        array := by simp [boundHolds.shows, addedHolds.shows, changedHolds.shows] }

theorem Rounds.append {first rounds more : Nat} {shots rest : List Snapshot}
    (front : Rounds numbers first rounds shots)
    (behind : Rounds numbers (first + rounds) more rest) :
    Rounds numbers first (rounds + more) (shots ++ rest) where
  length := by
    rw [List.length_append, front.length, behind.length]
    omega
  highlights := by
    rw [highlights_append, front.highlights, behind.highlights, ← List.map_append,
      List.range'_append_1]
  array := List.forall_mem_append.mpr ⟨front.array, behind.array⟩

/-- From each test on, the loop adds the cells that are left. -/
theorem exists_course (counts : Number.CountsTo numbers.length)
    (fewRounds : (numbers.length : Int) ≤ limits.maxLoop) (left : Nat) {place : Nat}
    (whole : place + left = numbers.length)
    (holds : Holds numbers (sumBefore numbers place) (countAt place) machine)
    (fewSteps : ((machine.steps + left : Nat) : Int) ≤ limits.maxSteps) :
    ∃ shots ended,
      Course limits (fun _ => false) machine (.test (frame place) (Float.ofNat place) []) shots
        (.finished ended) ∧
      Holds numbers (sumBefore numbers numbers.length) (countAt numbers.length) ended ∧
      Rounds numbers place left shots := by
  induction left generalizing place machine with
  | zero =>
    obtain rfl : place = numbers.length := whole
    have leaves := goesOn_eq numbers.length holds counts le_rfl
    rw [decide_eq_false (lt_irrefl _)] at leaves
    refine ⟨[], machine.leaveLoop, .silent (Step.step_of_rule (.loopLeft leaves)) (.finished rfl),
      ⟨holds.environment, holds.arrayName, holds.constants⟩, rfl, rfl, by simp⟩
  | succ left ih =>
    have within : place < numbers.length := by omega
    have roundFits : ((place + 1 : Nat) : Int) ≤ limits.maxLoop := by omega
    have stepFits : ((machine.steps + 1 : Nat) : Int) ≤ limits.maxSteps := by omega
    obtain ⟨changed, shots, changedHolds, steps, round, onwards⟩ :=
      exists_round holds counts (List.getElem?_eq_getElem within) roundFits stepFits
    obtain ⟨rest, ended, course, endedHolds, rounds⟩ :=
      ih (by omega) changedHolds (by rw [steps]; omega)
    refine ⟨shots ++ rest, ended, onwards course, endedHolds, ?_⟩
    rw [Nat.add_comm left 1]
    exact round.append rounds

end Loop

/-! ## In front of the loop -/

def header : LoopHeader :=
  ⟨counter.text, ['0'], counter.text, .less, "arr.length".toList, ['+', '+'], 1⟩

section Start

variable {limits : Limits} {numbers : List Float} {machine : Machine}

/-- The first two lines declare the array and the sum. -/
theorem exists_declared {literal : Text} {rest : List Line}
    (classified : classify ("let arr = ".toList ++ literal ++ [';']) =
      .ok (.declaration array.text literal .letWord))
    (read : Literal.read? literal = .ok (some (.array (numbers.map .number))))
    (fewSteps : 2 ≤ limits.maxSteps) :
    ∃ (after : Machine) (shots : List Snapshot),
      Holds numbers 0 none after ∧ after.steps = 2 ∧ shots.length = 2 ∧ highlights shots = [] ∧
      (∀ shown ∈ shots, shown.value? array.text = some (.array (numbers.map .number))) ∧
      ∀ {more : List Snapshot} {ending : Ending},
        Course limits (fun _ => false) after (.top rest) more ending →
        Course limits (fun _ => false) .started
          (.top (⟨0, "let arr = ".toList ++ literal ++ [';']⟩ ::
            ⟨1, "let sum = 0;".toList⟩ :: rest))
          (shots ++ more) ending := by
  let visited := Machine.started.visit false ⟨0, "let arr = ".toList ++ literal ++ [';']⟩
  let first := visited.written array.text (.array (numbers.map .number))
  let next := (first.showing .declare).1.visit false ⟨1, "let sum = 0;".toList⟩
  let second := next.written total.text (.number 0)
  have declared : visited.declare array.text literal .letWord = .ok first := by
    simp only [Machine.declare, Machine.declaredValue, read]
    rfl
  have summed : next.declare total.text ['0'] .letWord = .ok second := rfl
  have sumClassified : classify "let sum = 0;".toList =
      .ok (.declaration total.text ['0'] .letWord) := by
    change classify "let sum = 0;".toList = .ok (.declaration "sum".toList _ _)
    cbv
  have within : ¬Step.Exhausted limits Machine.started :=
    not_lt.mpr (show ((0 + 1 : Nat) : Int) ≤ limits.maxSteps by omega)
  have withinNext : ¬Step.Exhausted limits (first.showing .declare).1 :=
    not_lt.mpr (show ((1 + 1 : Nat) : Int) ≤ limits.maxSteps by omega)
  have holds : Holds numbers 0 none second := ⟨rfl, rfl, rfl⟩
  refine ⟨(second.showing .declare).1,
    [(first.showing .declare).2, (second.showing .declare).2], holds.showing .declare, rfl, rfl,
    rfl, ?_, ?_⟩
  · simp only [List.mem_cons, List.not_mem_nil, or_false, forall_eq_or_imp, forall_eq]
    exact ⟨rfl, rfl⟩
  · intro more ending course
    exact .shown (Step.step_of_rule
      (@Step.Rule.declared _ _ .top _ _ _ _ _ _ classified within declared)) rfl
      (.shown (Step.step_of_rule
        (@Step.Rule.declared _ _ .top _ _ _ _ _ _ sumClassified withinNext summed)) rfl course)

/-- The loop is entered with its counter at zero. -/
theorem exists_entered {sum : Float} (holds : Holds numbers sum none machine)
    (fewSteps : ((machine.steps + 1 : Nat) : Int) ≤ limits.maxSteps) :
    ∃ entered, step limits machine
        (.top [⟨2, "for (let i = 0; i < arr.length; i++) \x7b".toList⟩, statement, ⟨4, ['\x7d']⟩]) =
        .go none entered (.test (frame 0) (Float.ofNat 0) []) ∧
      Holds numbers sum none entered ∧ entered.steps = machine.steps + 1 := by
  have classified : classify "for (let i = 0; i < arr.length; i++) \x7b".toList =
      .ok (.loop header) := by
    change classify "for (let i = 0; i < arr.length; i++) \x7b".toList =
      .ok (.loop ⟨['i'], ['0'], ['i'], .less, "arr.length".toList, ['+', '+'], 1⟩)
    cbv
  have extracted : Block.extract ⟨2, "for (let i = 0; i < arr.length; i++) \x7b".toList⟩
      [statement, ⟨4, ['\x7d']⟩] = .ok ⟨[statement], 4, []⟩ := rfl
  let visited := machine.visit false ⟨2, "for (let i = 0; i < arr.length; i++) \x7b".toList⟩
  have started : visited.enterLoop header 2 ⟨[statement], 4, []⟩ =
      .ok ({ visited with frame := some (frame 0) }, frame 0, Float.ofNat 0) := rfl
  refine ⟨_, Step.step_of_rule (.loopEntered classified (not_lt.mpr fewSteps) extracted started),
    ⟨holds.environment, holds.arrayName, holds.constants⟩, rfl⟩

end Start

/-! ## The script as a text -/

/-- What stands behind the array, if line feeds part the lines. -/
def behindArray : Text :=
  ";\nlet sum = 0;\nfor (let i = 0; i < arr.length; i++) \x7b\nsum = sum + arr[i];\n\x7d".toList

section Script

variable {literal script : Text} {numbers : List Float}

theorem intercalate_lines (literal ending : Text) :
    List.intercalate ['\n'] (lines literal) ++ ending =
      "let arr = ".toList ++ (literal ++ (behindArray ++ ending)) := by
  change "let arr = ".toList ++ literal ++ [';'] ++ _ ++ ending = _
  simp only [List.append_assoc]
  rfl

/-- No construct of another dialect begins with a character of an array. -/
theorem notMem_initials (legible : Json.Legible literal) :
    ∀ char ∈ literal, char ∉ Dialect.Rule.initials := by
  have apart : ∀ char ∈ Dialect.Rule.initials, char.isDigit = false ∧ char ∉ Json.arrayMarks := by
    simp [Dialect.Rule.initials, Json.arrayMarks]
  intro char member known
  exact legible.notMem (apart char known).1 (apart char known).2 member

/-- The script is accepted, whatever the array holds. -/
theorem accepted (writes : Json.WritesArray literal numbers)
    (written : Text.lines script = lines literal) : Dialect.violation? script = none := by
  obtain ⟨ending, known, same⟩ := Dialect.exists_violation?_eq script
  rw [same, written, intercalate_lines, Dialect.violation?, List.find?_eq_none]
  intro rule _
  have front (rest : Text) :
      rule.occursFrom false ("let arr = ".toList ++ rest) = rule.occursFrom false rest := by
    cases rule <;> rfl
  have behind : rule.occursFrom false (behindArray ++ ending) = false := by
    simp only [List.mem_cons, List.not_mem_nil, or_false] at known
    rcases known with rfl | rfl <;> cases rule <;> rfl
  -- No construct begins in the array, and its last bracket ends every word in front of the rest.
  have outside : (some ']').elim false Text.isWord = false := rfl
  rw [Dialect.Rule.occurs, front, Dialect.Rule.occursFrom_append (notMem_initials writes.legible),
    writes.getLast?_eq, outside, behind]
  decide

/-- The first line declares the array. -/
theorem classify_array (writes : Json.WritesArray literal numbers) :
    classify ("let arr = ".toList ++ literal ++ [';']) =
      .ok (.declaration array.text literal .letWord) := by
  let name : Form.Name := ⟨'a', ['r', 'r'], .inl (by decide), by simp [Text.isWord]⟩
  let form : Form := .declaration .letWord name writes.expression
  exact form.classify_of_body form.stripStatement_render

end Script

/-! ## The run -/

/-- What a run that sums an array leaves: it completes with three snapshots for each cell and three
more, highlights one cell after the other, keeps the array, and ends with the sum of the cells from
the left.  The counter ends as the number of cells; without cells it is not bound. -/
structure Sums (numbers : List Float) (result : RunResult) : Prop where
  completed : result.outcome = .completed
  length : result.snapshots.length = 3 * numbers.length + 3
  highlights : highlights result.snapshots = (List.range numbers.length).map some
  array : ∀ shown ∈ result.snapshots,
    shown.value? "arr".toList = some (.array (numbers.map .number))
  environment : result.environment =
    [("arr".toList, .array (numbers.map .number)),
      ("sum".toList, .number (numbers.foldl (· + ·) 0))] ++
    if numbers = [] then [] else [("i".toList, .number (Float.ofNat numbers.length))]

theorem countAt_eq (numbers : List Float) (sum : Float) :
    bindings numbers sum (countAt numbers.length) =
      [("arr".toList, .array (numbers.map .number)), ("sum".toList, .number sum)] ++
        if numbers = [] then [] else [("i".toList, .number (Float.ofNat numbers.length))] := by
  cases numbers <;> rfl

/-- The script goes its course to the end. -/
theorem exists_finished {limits : Limits} {literal : Text} {numbers : List Float}
    (writes : Json.WritesArray literal numbers) (counts : Number.CountsTo numbers.length)
    (fewRounds : (numbers.length : Int) ≤ limits.maxLoop)
    (fewSteps : ((numbers.length + 3 : Nat) : Int) ≤ limits.maxSteps) :
    ∃ declarations rounds ended,
      Course limits (fun _ => false) .started (.top (numberLines 0 (lines literal)))
        (declarations ++ rounds) (.finished ended) ∧
      Holds numbers (sumBefore numbers numbers.length) (countAt numbers.length) ended ∧
      declarations.length = 2 ∧ highlights declarations = [] ∧
      (∀ shown ∈ declarations, shown.value? array.text = some (.array (numbers.map .number))) ∧
      Rounds numbers 0 numbers.length rounds := by
  obtain ⟨declared, declarations, holds, steps, length, unlit, shown, onwards⟩ :=
    @exists_declared limits _ _ _ (classify_array writes) writes.literal_read? (by omega)
  obtain ⟨entered, enters, enteredHolds, enteredSteps⟩ :=
    @exists_entered limits _ _ _ holds (by omega)
  obtain ⟨rounds, ended, course, endedHolds, all⟩ :=
    exists_course counts fewRounds numbers.length (Nat.zero_add _) enteredHolds (by omega)
  exact ⟨declarations, rounds, ended, onwards (.silent enters course), endedHolds, length, unlit,
    shown, all⟩

end Summation

/-- A script that sums the cells of an array completes, if the limits leave room for its rounds and
its statements. -/
theorem Engine.run_sums {engine : Engine} {script literal : Text} {numbers : List Float}
    {speed : Option Value} {delay : Float} (idle : engine.isRunning = false)
    (paced : pacing speed = .ok delay) (writes : Json.WritesArray literal numbers)
    (written : Text.lines script = Summation.lines literal)
    (counts : Number.CountsTo numbers.length)
    (fewRounds : (numbers.length : Int) ≤ engine.limits.maxLoop)
    (fewSteps : ((numbers.length + 3 : Nat) : Int) ≤ engine.limits.maxSteps) :
    ∃ ended result, engine.run script speed (fun _ => false) = (ended, .ok result) ∧
      Summation.Sums numbers result := by
  obtain ⟨declarations, rounds, ended, course, holds, length, unlit, shown, all⟩ :=
    Summation.exists_finished writes counts fewRounds fewSteps
  rw [← written] at course
  obtain ⟨-, -, answered⟩ := run_of_course idle (Summation.accepted writes written) paced course
  let final := (ended.concluding .completed .completed .completed .completed).2
  refine ⟨_, _, Prod.ext rfl answered, rfl, ?_, ?_, ?_, ?_⟩
  · change (declarations ++ rounds ++ [final]).length = _
    rw [List.length_append, List.length_append, length, all.length, List.length_singleton]
    omega
  · change Summation.highlights (declarations ++ rounds ++ [final]) = _
    rw [Summation.highlights_append, Summation.highlights_append, unlit, all.highlights,
      List.range_eq_range']
    exact List.append_nil _
  · change ∀ shown ∈ declarations ++ rounds ++ [final], _
    have last : final.value? Summation.array.text = some (.array (numbers.map .number)) :=
      holds.concludes
    simp only [List.forall_mem_append, List.forall_mem_singleton]
    exact ⟨⟨shown, all.array⟩, last⟩
  · refine (@RunResult.environment_of_conclusion (Text.lines script) (declarations ++ rounds)
      (.finished ended) _ _ _ rfl rfl).trans ?_
    change ended.environment = _
    rw [holds.environment, Summation.countAt_eq, Summation.sumBefore, List.take_length]

/-- The sum of an integer and a number with a point, with a space between them. -/
theorem Engine.run_sums_of_two : ∃ ended result,
    new.run ("let arr = [1, 2.5];\nlet sum = 0;\nfor (let i = 0; i < arr.length; i++) \x7b\n" ++
      "sum = sum + arr[i];\n\x7d").toList none (fun _ => false) = (ended, .ok result) ∧
      Summation.Sums [1, 2.5] result := by
  let one : Json.Decimal := ⟨false, ⟨['1'], by simp, by simp⟩, none, none, .inr (by simp)⟩
  let other : Json.Decimal :=
    ⟨false, ⟨['2'], by simp, by simp⟩, some ⟨['5'], by simp, by simp⟩, none, .inr (by simp)⟩
  have nothing : IsGap [] := by simp [IsGap]
  have space : IsGap [' '] := by simp [IsGap]
  have last : Json.WritesItems " 2.5]".toList [2.5] :=
    @Json.WritesItems.last [' '] [] other 2.5 space (by decide +kernel) nothing
  have writes : Json.WritesArray "[1, 2.5]".toList [1, 2.5] :=
    .filled (@Json.WritesItems.more [] [] _ one 1 _ nothing (by decide +kernel) nothing last)
  have counts : Number.CountsTo 2 := ⟨by decide +kernel, by decide +kernel, by decide +kernel⟩
  exact run_sums rfl pacing_none writes (by cbv) counts (by decide) (by decide)

end StepScript

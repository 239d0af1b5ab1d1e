import StepScript.Proofs.Run.Placement
import StepScript.Proofs.Run.Shape

/-!
# Rounds of a loop

A loop is shown at its turns: it binds its counter when a round begins and changes it when the round
ends.  The turns of a run alternate, and the condition of the loop can be checked against them,
although it is asked before the counter is bound: a bind shows just the variables that the condition
was asked with, and in front of every later test the increment has shown them (`step_disciplined`).
-/

namespace StepScript

/-- Whether an event is a turn of a loop: the start or the end of a round. -/
def Event.isTurn : Event → Bool
  | .bind | .increment => true
  | _ => false

/-- A loop header stands on a line of a script. -/
def HeaderAt (lines : List Text) (index : Nat) (header : LoopHeader) : Prop :=
  ∃ text, lines[index]? = some text ∧ classify text = .ok (.loop header)

/-- Whether the condition of a header holds with given variables. -/
def LoopHeader.condition (header : LoopHeader) (environment : Environment) : Except Fault Bool :=
  match Environment.find? header.tested environment with
  | none => .error (.undefinedVariable header.tested)
  | some tested =>
    match evaluateText header.bound environment with
    | .error fault => .error fault
    | .ok bound =>
      let part := header.tested ++ ' ' :: header.comparator.symbol ++ ' ' :: header.bound
      header.comparator.compare tested bound (some part)

/-- The snapshot stands at a loop header, whose condition gives an answer with the variables that
are shown. -/
def Snapshot.Answers (lines : List Text) (answer : Bool) (shown : Snapshot) : Prop :=
  ∃ index header, shown.line = some index ∧ HeaderAt lines index header ∧
    header.condition shown.environment = .ok answer

/-- How many rounds the loop at a line begins in some snapshots. -/
def Snapshot.rounds (index : Nat) (shots : List Snapshot) : Nat :=
  shots.countP fun shown => shown.event = .bind && shown.line = some index

/-! ## Frames and their headers -/

/-- A frame holds the clauses of the header on its line. -/
structure Frame.Holds (lines : List Text) (header : LoopHeader) (frame : Frame) : Prop where
  standsAt : HeaderAt lines frame.header header
  counter : frame.counter = header.counter
  tested : frame.tested = header.tested
  comparator : frame.comparator = header.comparator
  bound : frame.bound = header.bound

namespace Frame.Holds

variable {lines : List Text} {header : LoopHeader} {frame : Frame}

/-- A loop asks the condition of its header, with its counter bound. -/
theorem goesOn_eq (holds : frame.Holds lines header) (value : Float) (environment : Environment) :
    Machine.goesOn frame value environment =
      header.condition (Environment.bind frame.counter (.number value) environment) :=
  let own : LoopHeader :=
    { header with tested := frame.tested, comparator := frame.comparator, bound := frame.bound }
  have same : own = header := by
    simp only [own, holds.tested, holds.comparator, holds.bound]
  calc Machine.goesOn frame value environment
      = own.condition (Environment.bind frame.counter (.number value) environment) := rfl
    _ = header.condition (Environment.bind frame.counter (.number value) environment) := by
      rw [same]

theorem countRound (holds : frame.Holds lines header) (machine : Machine) :
    (machine.countRound frame).2.Holds lines header :=
  ⟨holds.standsAt, holds.counter, holds.tested, holds.comparator, holds.bound⟩

end Frame.Holds

theorem getElem?_of_mem_numberLines {start : Nat} {lines : List Text} {line : Line}
    (member : line ∈ numberLines start lines) :
    start ≤ line.index ∧ lines[line.index - start]? = some line.text := by
  induction lines generalizing start with
  | nil => simp [numberLines] at member
  | cons text rest ih =>
    rcases List.mem_cons.mp member with rfl | later
    · simp
    · rcases ih later with ⟨behind, found⟩
      have next : line.index - start = line.index - (start + 1) + 1 := by omega
      exact ⟨by omega, by rw [next, List.getElem?_cons_succ, found]⟩

theorem Machine.frameOf_holds {lines : List Text} {line : Line} {rest : List Line}
    {header : LoopHeader} (block : Block) (start : Float)
    (within : line :: rest <:+ numberLines 0 lines)
    (classified : classify line.text = .ok (.loop header)) :
    (frameOf header line.index block start).Holds lines header := by
  have found := (getElem?_of_mem_numberLines (within.subset List.mem_cons_self)).2
  exact ⟨⟨line.text, found, classified⟩, rfl, rfl, rfl, rfl⟩

/-- Binding a variable to the value that it has changes nothing. -/
theorem Environment.bind_of_find? {name : Text} {value : Value} {environment : Environment}
    (found : find? name environment = some value) : bind name value environment = environment := by
  induction environment with
  | nil => simp [find?] at found
  | cons entry rest ih =>
    rcases entry with ⟨other, old⟩
    by_cases same : other = name
    · simp only [find?, same, if_true, Option.some.injEq] at found
      simp [bind, same, found]
    · simp only [find?, same, if_false] at found
      simp only [bind, same, if_false, ih found]

/-! ## Turns that have been shown -/

/-- How a turn follows the one before it: it ends the round that the other has begun, or it begins
the next round of the same loop or the first one of another. -/
inductive Snapshot.Follows (lines : List Text) (earlier later : Snapshot) : Prop where
  | ends (begun : earlier.event = .bind) (ended : later.event = .increment)
      (same : later.line = earlier.line)
  | goesOn (ended : earlier.event = .increment) (begun : later.event = .bind)
      (same : later.line = earlier.line) (unchanged : later.environment = earlier.environment)
  | enters (ended : earlier.event = .increment) (begun : later.event = .bind)
      (other : later.line ≠ earlier.line) (left : earlier.Answers lines false)

/-- A list of turns, newest first, is one that a run can show. -/
structure Turns (limits : Limits) (lines : List Text) (seen : List Snapshot) : Prop where
  first : ∀ shown, seen.getLast? = some shown → shown.event = .bind
  follows : seen.IsChain fun later earlier => earlier.Follows lines later
  answers : ∀ shown ∈ seen, shown.event = .bind → shown.Answers lines true
  rounds_le : ∀ index, Snapshot.rounds index seen ≤ limits.maxLoop.toNat

/-- The loop of the newest turn, if there is one, has been left. -/
def Snapshot.LeftBehind (lines : List Text) (seen : List Snapshot) : Prop :=
  ∀ last, seen.head? = some last → last.event = .increment ∧ last.Answers lines false

/-- What has been shown of the loop of a frame that is open: as many rounds as the frame counts. -/
structure Frame.Shown (limits : Limits) (lines : List Text) (machine : Machine)
    (seen : List Snapshot) (frame : Frame) : Prop where
  holds : ∃ header, frame.Holds lines header
  visited : frame.header ∈ machine.visited
  rounds_eq : Snapshot.rounds frame.header seen = frame.iterations
  rounds_le : frame.iterations ≤ limits.maxLoop.toNat

/-- What has been shown when a run comes to a control point. -/
def Control.Turned (limits : Limits) (lines : List Text) (machine : Machine)
    (seen : List Snapshot) : Control → Prop
  | .top _ => Snapshot.LeftBehind lines seen
  | .test frame value _ =>
    frame.Shown limits lines machine seen ∧
      (frame.iterations = 0 ∧ Snapshot.LeftBehind lines seen ∧
          (∀ shown ∈ seen, shown.line ≠ some frame.header) ∨
        ∃ last, seen.head? = some last ∧ last.event = .increment ∧ last.line = some frame.header ∧
          last.environment = machine.environment ∧
          Environment.find? frame.counter machine.environment = some (.number value))
  | .body frame _ _ =>
    frame.Shown limits lines machine seen ∧
      ∃ last, seen.head? = some last ∧ last.event = .bind ∧ last.line = some frame.header

/-- A machine at a control point of a script, and the turns that have been shown on the way there,
newest first. -/
structure Disciplined (limits : Limits) (lines : List Text) (seen : List Snapshot)
    (machine : Machine) (control : Control) : Prop where
  turns : Turns limits lines seen
  stands : control.Stands lines machine
  timeline : (machine.visited ++ control.pending).Pairwise (· < ·)
  entered : ∀ shown ∈ seen, ∃ index ∈ machine.visited, shown.line = some index
  turned : control.Turned limits lines machine seen

section Visited

variable {machine changed : Machine}

theorem Machine.visited_visit_top (line : Line) (machine : Machine) :
    (machine.visit false line).visited = machine.visited ++ [line.index] := by
  simp [visited, log, visit, LogEntry.index?]

theorem Machine.visited_subset (grows : machine.entries <:+ changed.entries) :
    machine.visited ⊆ changed.visited := by
  have logs : machine.log <+: changed.log := List.reverse_prefix.mpr grows
  exact (logs.sublist.filterMap _).subset

theorem Frame.Shown.grow {limits : Limits} {lines : List Text} {seen : List Snapshot}
    {frame : Frame} (shown : frame.Shown limits lines machine seen)
    (grows : machine.visited ⊆ changed.visited) : frame.Shown limits lines changed seen :=
  ⟨shown.holds, grows shown.visited, shown.rounds_eq, shown.rounds_le⟩

end Visited

section Rounds

variable {shown : Snapshot} {seen : List Snapshot} {line : Nat}

theorem Snapshot.rounds_cons_bind (begun : shown.event = .bind) (stands : shown.line = some line)
    (index : Nat) :
    rounds index (shown :: seen) = rounds index seen + if line = index then 1 else 0 := by
  simp [rounds, List.countP_cons, begun, stands]

theorem Snapshot.rounds_cons_increment (ended : shown.event = .increment) (index : Nat) :
    rounds index (shown :: seen) = rounds index seen := by
  simp [rounds, ended]

end Rounds

namespace Turns

variable {limits : Limits} {lines : List Text} {seen : List Snapshot}

theorem nil (limits : Limits) (lines : List Text) : Turns limits lines [] where
  first shown found := by simp at found
  follows := .nil
  answers shown member := by simp at member
  rounds_le index := Nat.zero_le _

/-- The first turn of all is still the first one when another turn follows. -/
theorem first_cons {shown : Snapshot} (turns : Turns limits lines seen)
    (only : seen = [] → shown.event = .bind) :
    ∀ first, (shown :: seen).getLast? = some first → first.event = .bind := by
  intro first found
  cases seen with
  | nil =>
    obtain rfl : shown = first := by simpa using found
    exact only rfl
  | cons last before =>
    rw [List.getLast?_cons_cons] at found
    exact turns.first first found

theorem cons_bind {shown : Snapshot} {index : Nat} (turns : Turns limits lines seen)
    (begun : shown.event = .bind) (stands : shown.line = some index)
    (answers : shown.Answers lines true)
    (follows : ∀ last, seen.head? = some last → last.Follows lines shown)
    (allowed : Snapshot.rounds index seen + 1 ≤ limits.maxLoop.toNat) :
    Turns limits lines (shown :: seen) where
  first := turns.first_cons fun _ => begun
  follows := List.isChain_cons.mpr ⟨follows, turns.follows⟩
  answers other member bound := by
    rcases List.mem_cons.mp member with rfl | before
    · exact answers
    · exact turns.answers other before bound
  rounds_le other := by
    rw [Snapshot.rounds_cons_bind begun stands]
    split
    next same => exact same ▸ allowed
    next => exact turns.rounds_le other

theorem cons_increment {shown last : Snapshot} (turns : Turns limits lines seen)
    (ended : shown.event = .increment) (newest : seen.head? = some last)
    (begun : last.event = .bind) (same : shown.line = last.line) :
    Turns limits lines (shown :: seen) where
  first := turns.first_cons fun none => by simp [none] at newest
  follows := by
    refine List.isChain_cons.mpr ⟨?_, turns.follows⟩
    intro other found
    obtain rfl : last = other := Option.some.inj (newest.symm.trans found)
    exact .ends begun ended same
  answers other member bound := by
    rcases List.mem_cons.mp member with rfl | before
    · simp [ended] at bound
    · exact turns.answers other before bound
  rounds_le other := by
    rw [Snapshot.rounds_cons_increment ended]
    exact turns.rounds_le other

end Turns

/-! ## Steps and turns -/

/-- The snapshots of a list that show turns. -/
def Snapshot.turns (shots : List Snapshot) : List Snapshot :=
  shots.filter fun shown => shown.event.isTurn

section Step

variable {limits : Limits} {lines : List Text} {seen : List Snapshot} {machine changed : Machine}
  {control reached : Control}

/-- Passing lines shows no turn. -/
theorem Place.turned {place : Place} {more rest : List Line}
    (turned : (place.control more).Turned limits lines machine seen)
    (grows : machine.visited ⊆ changed.visited) :
    (place.control rest).Turned limits lines changed seen := by
  cases place with
  | top => exact turned
  | body frame after => exact ⟨turned.1.grow grows, turned.2⟩

/-- Counting a snapshot changes nothing. -/
theorem Control.Turned.counted (turned : control.Turned limits lines machine seen) (taken : Nat) :
    control.Turned limits lines { machine with taken } seen := by
  cases control with
  | top rest => exact turned
  | test frame value after => exact ⟨turned.1.grow (List.Subset.refl _), turned.2⟩
  | body frame rest after => exact ⟨turned.1.grow (List.Subset.refl _), turned.2⟩

/-- No turn has been shown at a line that is still ahead. -/
theorem Disciplined.line_ne (disciplined : Disciplined limits lines seen machine control)
    {index : Nat} (ahead : index ∈ control.pending) :
    ∀ shown ∈ seen, shown.line ≠ some index := by
  intro shown member stands
  rcases disciplined.entered shown member with ⟨other, visited, found⟩
  obtain rfl : other = index := Option.some.inj (found.symm.trans stands)
  exact Nat.lt_irrefl _ ((List.pairwise_append.mp disciplined.timeline).2.2 _ visited _ ahead)

theorem Snapshot.rounds_eq_zero {index : Nat} (unseen : ∀ shown ∈ seen, shown.line ≠ some index) :
    rounds index seen = 0 := by
  refine List.countP_eq_zero.mpr ?_
  intro shown member
  simp [unseen shown member]

/-- The test of a loop that has shown a round asks its condition with the variables that the newest
turn shows. -/
theorem Frame.Holds.goesOn_of_find? {header : LoopHeader} {frame : Frame} {value : Float}
    {environment : Environment} (holds : frame.Holds lines header)
    (counter : Environment.find? frame.counter environment = some (.number value)) :
    Machine.goesOn frame value environment = header.condition environment := by
  rw [holds.goesOn_eq, Environment.bind_of_find? counter]

/-- What a step leaves behind that goes on: the turns so far, and the one that it shows. -/
def Step.Turned (limits : Limits) (lines : List Text) (seen : List Snapshot) : Step → Prop
  | .go none machine control =>
    StepScript.Turns limits lines seen ∧ control.Turned limits lines machine seen
  | .go (some event) machine control =>
    let shown := Snapshot.turns [(machine.showing event).2]
    StepScript.Turns limits lines (shown ++ seen) ∧
      control.Turned limits lines machine (shown ++ seen) ∧
      ∀ turn ∈ shown, ∃ index ∈ machine.visited, turn.line = some index
  | _ => True

/-- A loop that begins a round shows its bind behind the turns so far. -/
theorem turned_of_begun {frame : Frame} {value : Float} {after : List Line}
    (turns : Turns limits lines seen)
    (turned : (Control.test frame value after).Turned limits lines machine seen)
    (goesOn : Machine.goesOn frame value machine.environment = .ok true)
    (within : ¬limits.maxLoop < ((frame.iterations + 1 : Nat) : Int))
    (begun : (machine.countRound frame).1.beginRound (machine.countRound frame).2 value =
      .ok changed) :
    (Step.go (some .bind) changed (.body (machine.countRound frame).2 frame.body after)).Turned
      limits lines seen := by
  rcases turned with ⟨⟨⟨header, holds⟩, visited, rounds_eq, _⟩, before⟩
  have changed_eq := Machine.beginRound_ok begun
  have line : (changed.showing .bind).2.line = some frame.header := by rw [changed_eq]; rfl
  have environment : (changed.showing .bind).2.environment =
    Environment.bind frame.counter (.number value) machine.environment := by rw [changed_eq]; rfl
  have allowed : frame.iterations + 1 ≤ limits.maxLoop.toNat := by omega
  have counted : Snapshot.rounds frame.header ((changed.showing .bind).2 :: seen) =
      frame.iterations + 1 := by
    rw [Snapshot.rounds_cons_bind rfl line, if_pos rfl, rounds_eq]
  have entered : frame.header ∈ changed.visited := changed_eq ▸ visited
  refine ⟨turns.cons_bind rfl line ?_ ?_ (rounds_eq ▸ allowed),
    ⟨⟨⟨header, holds.countRound machine⟩, entered, counted, allowed⟩, _, rfl, rfl, line⟩, ?_⟩
  · rw [holds.goesOn_eq, ← environment] at goesOn
    exact ⟨_, header, line, holds.standsAt, goesOn⟩
  · intro last newest
    rcases before with ⟨_, left, unseen⟩ | ⟨other, found, ended, same, unchanged, counter⟩
    · have member : last ∈ seen := List.mem_of_mem_head? newest
      exact .enters (left last newest).1 rfl (line ▸ (unseen last member).symm) (left last newest).2
    · obtain rfl : other = last := Option.some.inj (found.symm.trans newest)
      refine .goesOn ended rfl (line.trans same.symm) ?_
      rw [environment, Environment.bind_of_find? counter, unchanged]
  · intro turn member
    obtain rfl : turn = _ := List.mem_singleton.mp member
    exact ⟨_, entered, line⟩

theorem turned_of_ended {frame : Frame} {value : Float} {after : List Line}
    (turns : Turns limits lines seen)
    (turned : (Control.body frame [] after).Turned limits lines machine seen)
    (ended : machine.endRound frame = .ok (changed, value)) :
    (Step.go (some .increment) changed (.test frame value after)).Turned limits lines seen := by
  rcases turned with ⟨⟨holds, visited, rounds_eq, rounds_le⟩, last, newest, begun, same⟩
  have changed_eq := Machine.endRound_ok ended
  have line : (changed.showing .increment).2.line = some frame.header := by rw [changed_eq]; rfl
  have entered : frame.header ∈ changed.visited := changed_eq ▸ visited
  refine ⟨turns.cons_increment rfl newest begun (line.trans same.symm),
    ⟨⟨holds, entered, ?_, rounds_le⟩, .inr ⟨_, rfl, rfl, line, rfl, ?_⟩⟩, ?_⟩
  · exact (Snapshot.rounds_cons_increment rfl frame.header).trans rounds_eq
  · rw [changed_eq]
    exact Environment.find?_bind_self _ _ _
  · intro turn member
    obtain rfl : turn = _ := List.mem_singleton.mp member
    exact ⟨_, entered, line⟩

theorem step_turned {result : Step} (disciplined : Disciplined limits lines seen machine control)
    (steps : step limits machine control = result) : result.Turned limits lines seen := by
  have turns := disciplined.turns
  have turned := disciplined.turned
  have grows := Machine.visited_subset (step_entries steps)
  cases Step.rule_of_step steps with
  | silent | ignored | conditionLast | consequencePassed =>
    exact ⟨turns, Place.turned turned grows⟩
  | declared | assigned | consequenceAssigned =>
    exact ⟨turns, Place.turned turned grows, by simp [Snapshot.turns, Machine.showing,
      Machine.snapshot, Event.isTurn]⟩
  | consequenceBlock => exact ⟨turns, turned⟩
  | @loopEntered line more header block entered frame value classified within extracted started =>
    rcases Machine.enterLoop_ok started with ⟨rfl, rfl⟩
    have unseen := disciplined.line_ne (show line.index ∈ (line :: more).map Line.index by simp)
    have holds := Machine.frameOf_holds block value disciplined.stands.1 classified
    refine ⟨turns, ⟨⟨header, holds⟩, ?_, Snapshot.rounds_eq_zero unseen, Nat.zero_le _⟩,
      .inl ⟨rfl, turned, unseen⟩⟩
    show line.index ∈ (machine.visit false line).visited
    simp [Machine.visited_visit_top]
  | loopLeft ended =>
    rcases turned with
      ⟨⟨⟨header, holds⟩, _⟩, ⟨_, left, _⟩ | ⟨last, newest, event, line, same, counter⟩⟩
    · exact ⟨turns, left⟩
    · refine ⟨turns, ?_⟩
      intro other found
      obtain rfl : last = other := Option.some.inj (newest.symm.trans found)
      rw [holds.goesOn_of_find? counter] at ended
      exact ⟨event, _, header, line, holds.standsAt, same ▸ ended⟩
  | roundBegun goesOn within begun => exact turned_of_begun turns turned goesOn within begun
  | incremented ended => exact turned_of_ended turns turned ended
  | _ => trivial

/-- Wherever a step goes on, the discipline is kept, with the turn that it shows. -/
def Step.Disciplined (limits : Limits) (lines : List Text) (seen : List Snapshot) : Step → Prop
  | .go none machine control => StepScript.Disciplined limits lines seen machine control
  | .go (some event) machine control =>
    StepScript.Disciplined limits lines (Snapshot.turns [(machine.showing event).2] ++ seen)
      (machine.showing event).1 control
  | _ => True

theorem step_disciplined {result : Step}
    (disciplined : Disciplined limits lines seen machine control)
    (steps : step limits machine control = result) : result.Disciplined limits lines seen := by
  have timeline := disciplined.timeline.sublist (step_timeline steps)
  have stands := step_stands disciplined.stands steps
  have turned := step_turned disciplined steps
  have entered : ∀ shown ∈ seen, ∃ index ∈ result.machine.visited, shown.line = some index := by
    intro shown member
    rcases disciplined.entered shown member with ⟨index, visited, line⟩
    exact ⟨index, Machine.visited_subset (step_entries steps) visited, line⟩
  cases result with
  | finish | fault | breakdown => trivial
  | go event changed reached =>
    cases event with
    | none => exact ⟨turned.1, stands.1, timeline, entered, turned.2⟩
    | some event =>
      rcases turned with ⟨turns, turned, shows⟩
      refine ⟨turns, stands.1.counted _, timeline, ?_, turned.counted _⟩
      intro shown member
      rcases List.mem_append.mp member with new | old
      · exact shows shown new
      · exact entered shown old

theorem Snapshot.reverse_turns_cons (shown : Snapshot) (shots : List Snapshot) :
    (turns (shown :: shots)).reverse = (turns shots).reverse ++ turns [shown] := by
  cases shows : shown.event.isTurn <;> simp [turns, shows]

end Step

/-! ## Courses and turns -/

/-- What is left of the turns of a run, newest first, at its ending. -/
structure Concluded (limits : Limits) (lines : List Text) (seen : List Snapshot) (ending : Ending) :
    Prop where
  turns : Turns limits lines seen
  entered : ∀ shown ∈ seen, ∃ index ∈ ending.machine.visited, shown.line = some index
  left : ∀ final, ending = .finished final → Snapshot.LeftBehind lines seen

section Course

variable {limits : Limits} {cancels : Snapshot → Bool} {lines : List Text} {seen : List Snapshot}
  {machine : Machine} {control : Control} {shots : List Snapshot} {ending : Ending}

theorem Disciplined.concluded {result : Step}
    (disciplined : Disciplined limits lines seen machine control)
    (steps : step limits machine control = result) (same : ending.machine = result.machine)
    (finished : ∀ final, ending = .finished final → control = .top []) :
    Concluded limits lines seen ending where
  turns := disciplined.turns
  entered shown member := by
    rcases disciplined.entered shown member with ⟨index, visited, line⟩
    exact ⟨index, same ▸ Machine.visited_subset (step_entries steps) visited, line⟩
  left final finishes := by
    have turned := disciplined.turned
    rw [finished final finishes] at turned
    exact turned

/-- Along a course the turns keep the discipline up to the ending. -/
theorem Course.concluded (course : Course limits cancels machine control shots ending)
    (disciplined : Disciplined limits lines seen machine control) :
    Concluded limits lines ((Snapshot.turns shots).reverse ++ seen) ending := by
  induction course generalizing seen with
  | silent goes rest ih => exact ih (step_disciplined disciplined goes)
  | shown goes kept rest ih =>
    rw [Snapshot.reverse_turns_cons, List.append_assoc]
    exact ih (step_disciplined disciplined goes)
  | @cancelled machine changed control reached event goes stopped =>
    have shown : Disciplined limits lines (Snapshot.turns [(changed.showing event).2] ++ seen)
        (changed.showing event).1 reached := step_disciplined disciplined goes
    rw [Snapshot.reverse_turns_cons]
    exact ⟨shown.turns, shown.entered, nofun⟩
  | finished ends => exact disciplined.concluded ends rfl fun _ _ => (Step.eq_of_finish ends).1
  | faulted fails => exact disciplined.concluded fails rfl nofun
  | broken breaks => exact disciplined.concluded breaks rfl nofun

/-- Wherever a run comes to, the turns shown so far keep the discipline, and the rest of its course
is left. -/
theorem Disciplined.of_passes {found : Machine} {met : Control}
    (passes : Passes limits cancels machine control found met)
    (disciplined : Disciplined limits lines seen machine control)
    (course : Course limits cancels machine control shots ending) :
    ∃ before rest, shots = before ++ rest ∧ Course limits cancels found met rest ending ∧
      Disciplined limits lines ((Snapshot.turns before).reverse ++ seen) found met := by
  induction passes generalizing shots seen with
  | here => exact ⟨[], shots, rfl, course, disciplined⟩
  | silent goes _ ih => exact ih (step_disciplined disciplined goes) (course.of_silent goes)
  | shown goes kept _ ih =>
    rcases course.of_shown goes kept with ⟨later, rfl, rest⟩
    rcases ih (step_disciplined disciplined goes) rest with ⟨before, left, rfl, ended, found⟩
    refine ⟨_ :: before, left, rfl, ended, ?_⟩
    rw [Snapshot.reverse_turns_cons, List.append_assoc]
    exact found

end Course

/-! ## Whole runs -/

/-- What a course shows stands on lines that its control point knows. -/
theorem Course.line_mem_indices {limits : Limits} {cancels : Snapshot → Bool} {machine : Machine}
    {control : Control} {shots : List Snapshot} {ending : Ending}
    (course : Course limits cancels machine control shots ending) :
    ∀ shown ∈ shots, ∃ index ∈ control.indices, shown.line = some index := by
  induction course with
  | silent goes rest ih =>
    intro shown member
    rcases ih shown member with ⟨index, known, line⟩
    exact ⟨index, (step_indices goes).1 known, line⟩
  | shown goes kept rest ih =>
    rcases step_indices goes with ⟨inside, shows⟩
    intro shown member
    rcases List.mem_cons.mp member with rfl | later
    · exact shows rfl
    · rcases ih shown later with ⟨index, known, line⟩
      exact ⟨index, inside known, line⟩
  | cancelled goes stopped =>
    intro shown member
    rw [List.mem_singleton.mp member]
    exact (step_indices goes).2 rfl
  | finished | faulted | broken => simp

/-- A script is begun in discipline. -/
theorem disciplined_started (limits : Limits) (lines : List Text) :
    Disciplined limits lines [] .started (.top (numberLines 0 lines)) where
  turns := .nil limits lines
  stands := Control.stands_started lines
  timeline := by
    show ([] ++ (numberLines 0 lines).map Line.index).Pairwise (· < ·)
    rw [List.nil_append, index_numberLines]
    exact List.pairwise_lt_range'
  entered := by simp
  turned := by simp [Control.Turned, Snapshot.LeftBehind]

theorem Ending.visited_machineAfter (lines : List Text) (ending : Ending) :
    (ending.machineAfter lines).visited = ending.machine.visited := by
  cases ending <;>
    simp [machineAfter, conclusion?, machine, Machine.concluding, Machine.visited, Machine.log,
      Machine.snapshot, Machine.record, LogEntry.index?]

/-- The turns of a result: the snapshots at which a loop binds or changes its counter. -/
def RunResult.turns (result : RunResult) : List Snapshot :=
  Snapshot.turns result.snapshots

theorem RunResult.turns_eq {lines : List Text} {shots : List Snapshot} {ending : Ending}
    {result : RunResult} (all : result.snapshots = ending.allShots lines shots) :
    result.turns = Snapshot.turns shots := by
  rw [turns, all, Ending.allShots, Snapshot.turns, List.filter_append, ← Snapshot.turns]
  cases ending <;> simp [Ending.conclusion?, Machine.concluding, Machine.snapshot, Event.isTurn]

/-- The run of a script comes to the test of a loop that has gone round, and the test ends it. -/
def LeavesLoop (limits : Limits) (cancels : Snapshot → Bool) (lines : List Text) (frame : Frame) :
    Prop :=
  ∃ found value after, 0 < frame.iterations ∧
    Passes limits cancels .started (.top (numberLines 0 lines)) found (.test frame value after) ∧
    Machine.goesOn frame value found.environment = .ok false

/-- What the turns of a run say about its loops.  One line stands for one execution of the loop
there, since a run comes to each header only once. -/
structure LoopDiscipline (limits : Limits) (cancels : Snapshot → Bool) (script : Text)
    (result : RunResult) : Prop where
  first : ∀ shown, result.turns.head? = some shown → shown.event = .bind
  alternate : result.turns.IsChain fun earlier later => earlier.event ≠ later.event
  last : result.outcome.phase = .completed →
    ∀ shown, result.turns.getLast? = some shown → shown.event = .increment
  same_line : result.turns.IsChain fun earlier later =>
    earlier.event = .bind → later.line = earlier.line
  unchanged : result.turns.IsChain fun earlier later =>
    earlier.event = .increment → later.line = earlier.line →
      later.environment = earlier.environment
  entered_once : ∀ shown ∈ result.turns, ∃ index, shown.line = some index ∧
    (result.log.filterMap LogEntry.index?).count index = 1
  rounds_le : ∀ index, (Snapshot.rounds index result.turns : Int) ≤ max limits.maxLoop 0
  holds : ∀ shown ∈ result.turns, shown.event = .bind → shown.Answers (Text.lines script) true
  fails : Dialect.violation? script = none →
    ∀ frame, LeavesLoop limits cancels (Text.lines script) frame →
      ∃ before last rest, result.turns = before ++ last :: rest ∧ last.line = some frame.header ∧
        (∀ later ∈ rest, later.line ≠ some frame.header) ∧ last.event = .increment ∧
        last.Answers (Text.lines script) false

section Discipline

variable {limits : Limits} {cancels : Snapshot → Bool} {lines : List Text} {shots : List Snapshot}
  {ending : Ending}

/-- The last turn of a loop that is left finds its condition false. -/
theorem Course.fails_of_leavesLoop {frame : Frame}
    (course : Course limits cancels .started (.top (numberLines 0 lines)) shots ending)
    (leaves : LeavesLoop limits cancels lines frame) :
    ∃ before last rest, Snapshot.turns shots = before ++ last :: rest ∧
      last.line = some frame.header ∧ (∀ later ∈ rest, later.line ≠ some frame.header) ∧
      last.event = .increment ∧ last.Answers lines false := by
  rcases leaves with ⟨found, value, after, gone, passes, ended⟩
  rcases (disciplined_started limits lines).of_passes passes course with
    ⟨before, rest, rfl, left, disciplined⟩
  rw [List.append_nil] at disciplined
  rcases disciplined.turned with ⟨shown, ⟨none, _⟩ | ⟨last, newest, event, line, same, counter⟩⟩
  · omega
  rcases shown.holds with ⟨header, holds⟩
  rw [List.head?_reverse] at newest
  rcases List.getLast?_eq_some_iff.mp newest with ⟨earlier, split⟩
  have behind := left.of_silent (Step.step_of_rule (.loopLeft ended))
  rw [holds.goesOn_of_find? counter] at ended
  refine ⟨earlier, last, Snapshot.turns rest, ?_, line, ?_, event, _, header, line, holds.standsAt,
    same ▸ ended⟩
  · rw [Snapshot.turns, List.filter_append, ← Snapshot.turns, ← Snapshot.turns, split,
      List.append_assoc]
    rfl
  · intro later member stands
    rcases behind.line_mem_indices later (List.mem_of_mem_filter member) with ⟨index, known, found⟩
    obtain rfl : index = frame.header := Option.some.inj (found.symm.trans stands)
    have apart := (List.pairwise_append.mp disciplined.timeline).2.2 _ shown.visited _ known
    exact Nat.lt_irrefl _ apart

end Discipline

namespace LoopDiscipline

/-- A rejected script shows no turns. -/
theorem of_rejected {rule : Dialect.Rule} {script : Text} (limits : Limits)
    (cancels : Snapshot → Bool) (violated : Dialect.violation? script = some rule) :
    LoopDiscipline limits cancels script
      ⟨.rejected rule, [], [.failed (Outcome.rejected rule).message]⟩ where
  first shown found := by simp [RunResult.turns, Snapshot.turns] at found
  alternate := .nil
  last completed := by simp [Outcome.rejected] at completed
  same_line := .nil
  unchanged := .nil
  entered_once shown member := by simp [RunResult.turns, Snapshot.turns] at member
  rounds_le index := le_max_right _ _
  holds shown member := by simp [RunResult.turns, Snapshot.turns] at member
  fails accepted := by simp [violated] at accepted

variable {limits : Limits} {cancels : Snapshot → Bool} {script : Text} {shots : List Snapshot}
  {ending : Ending} {result : RunResult}

theorem of_course
    (course : Course limits cancels .started (.top (numberLines 0 (Text.lines script))) shots
      ending) (answered : ending.answer (Text.lines script) shots = .ok result) :
    LoopDiscipline limits cancels script result := by
  rcases Ending.of_answer answered with ⟨ends, all, logged⟩
  have turned := RunResult.turns_eq all
  have visited : result.log.filterMap LogEntry.index? = ending.machine.visited := by
    rw [logged]
    exact ending.visited_machineAfter (Text.lines script)
  have sorted : ending.machine.visited.Nodup := (RunShape.visited_pairwise course).imp Nat.ne_of_lt
  have concluded := course.concluded (disciplined_started limits (Text.lines script))
  rw [List.append_nil, ← turned] at concluded
  have follows := List.isChain_reverse.mp concluded.turns.follows
  constructor
  · intro shown isFirst
    exact concluded.turns.first shown (by rwa [List.getLast?_reverse])
  · refine follows.imp ?_
    rintro earlier later (⟨begun, ended, _⟩ | ⟨ended, begun, _, _⟩ | ⟨ended, begun, _, _⟩) <;>
      simp [begun, ended]
  · intro completed shown isLast
    exact (concluded.left _ (Ending.eq_finished ends completed) shown
      (by rwa [List.head?_reverse])).1
  · refine follows.imp ?_
    rintro earlier later (⟨_, _, same⟩ | ⟨ended, _, _, _⟩ | ⟨ended, _, _, _⟩) begun
    · exact same
    · simp [ended] at begun
    · simp [ended] at begun
  · refine follows.imp ?_
    rintro earlier later (⟨begun, _, _⟩ | ⟨_, _, _, unchanged⟩ | ⟨_, _, other, _⟩) ended same
    · simp [begun] at ended
    · exact unchanged
    · exact absurd same other
  · intro shown member
    rcases concluded.entered shown (List.mem_reverse.mpr member) with ⟨index, known, line⟩
    exact ⟨index, line, visited ▸ List.count_eq_one_of_mem sorted known⟩
  · intro index
    have bounded := concluded.turns.rounds_le index
    rw [Snapshot.rounds, List.countP_reverse, ← Snapshot.rounds] at bounded
    omega
  · intro shown member begun
    exact concluded.turns.answers shown (List.mem_reverse.mpr member) begun
  · intro _ frame leaves
    rw [turned]
    exact course.fails_of_leavesLoop leaves

end LoopDiscipline

/-- Every run that returns keeps the discipline of loops. -/
theorem Engine.run_loopDiscipline {engine ended : Engine} {script : Text} {speed : Option Value}
    {cancels : Snapshot → Bool} {result : RunResult}
    (returned : engine.run script speed cancels = (ended, .ok result)) :
    LoopDiscipline engine.limits cancels script result := by
  rcases run_cases returned with ⟨rule, violated, rfl, _, _⟩ | ⟨_, shots, ending, course, left⟩
  · exact LoopDiscipline.of_rejected engine.limits cancels violated
  · exact LoopDiscipline.of_course course left.2.2.symm

/-- A loop that goes round once: its two turns, and the discipline between them. -/
theorem Engine.run_loopDiscipline_of_round :
    ∃ ended result,
      new.run "for (let i = 0; i < 1; i++) \x7b\n\x7d".toList none (fun _ => false) =
        (ended, .ok result) ∧
      result.outcome.phase = .completed ∧
      result.turns.map Snapshot.event = [.bind, .increment] ∧
      result.turns.map Snapshot.environment = [[(['i'], .number 0)], [(['i'], .number 1)]] ∧
      LoopDiscipline new.limits (fun _ => false)
        "for (let i = 0; i < 1; i++) \x7b\n\x7d".toList result := by
  let visited := Machine.started.visit false ⟨0, "for (let i = 0; i < 1; i++) \x7b".toList⟩
  let frame : Frame := ⟨['i'], 0, ['i'], .less, ['1'], 1, [], 0, 1, 0⟩
  let round : Frame := { frame with iterations := 1 }
  let bound : Machine :=
    { visited.written ['i'] (.number 0) with frame := some round, highlight := some 0 }
  let changed := (bound.showing .bind).1.written ['i'] (.number (0 + 1))
  have enters : step .standard .started
      (.top (numberLines 0 (Text.lines "for (let i = 0; i < 1; i++) \x7b\n\x7d".toList))) =
      .go none { visited with frame := some frame } (.test frame 0 []) := by
    have classified : classify "for (let i = 0; i < 1; i++) \x7b".toList =
      .ok (.loop ⟨['i'], ['0'], ['i'], .less, ['1'], ['+', '+'], 1⟩) := by cbv
    have within : ¬Step.Exhausted .standard .started :=
      show ¬(10000 : Int) < (0 + 1 : Nat) by decide
    have extracted : Block.extract ⟨0, "for (let i = 0; i < 1; i++) \x7b".toList⟩ [⟨1, ['\x7d']⟩] =
      .ok ⟨[], 1, []⟩ := rfl
    have started : visited.enterLoop ⟨['i'], ['0'], ['i'], .less, ['1'], ['+', '+'], 1⟩ 0
      ⟨[], 1, []⟩ = .ok ({ visited with frame := some frame }, frame, 0) := rfl
    exact Step.step_of_rule (.loopEntered classified within extracted started)
  have begins : step .standard { visited with frame := some frame } (.test frame 0 []) =
      .go (some .bind) bound (.body round [] []) := rfl
  have ends : step .standard (bound.showing .bind).1 (.body round [] []) =
      .go (some .increment) changed (.test round (0 + 1) []) := rfl
  have leaves : step .standard (changed.showing .increment).1 (.test round (0 + 1) []) =
      .go none (changed.showing .increment).1.leaveLoop (.top []) := rfl
  have course : Course .standard (fun _ => false) .started
      (.top (numberLines 0 (Text.lines "for (let i = 0; i < 1; i++) \x7b\n\x7d".toList)))
      [(bound.showing .bind).2, (changed.showing .increment).2]
      (.finished (changed.showing .increment).1.leaveLoop) :=
    .silent enters (.shown begins rfl (.shown ends rfl (.silent leaves (.finished rfl))))
  have accepted : Dialect.violation? "for (let i = 0; i < 1; i++) \x7b\n\x7d".toList = none := by
    cbv
  have idle : new.isRunning = false := rfl
  rcases run_ok_of_course idle accepted course rfl with ⟨ended, returned⟩
  refine ⟨ended, _, returned, rfl, ?_, ?_, run_loopDiscipline returned⟩
  · rw [RunResult.turns_eq rfl]
    rfl
  · rw [RunResult.turns_eq rfl]
    rfl

end StepScript

import StepScript.Proofs.Run.Course
import StepScript.Proofs.Run.Position

/-!
# Frames, cursors and highlights

A machine stands either outside of loops, with no frame and no highlight, or in the loop of its
frame, with the counter bound and the cursor on a line of the loop (`Machine.Placed`).  In between
lie the moments at which a frame is open and its counter may not be bound yet; no observer is shown
these, and a step that fails there ends the loop.  What a control point expects of the machine
(`Control.Stands`) tells the moments apart and is kept by every step (`step_stands`).
-/

namespace StepScript

namespace Environment

/-- Binding a variable takes no other variable away. -/
theorem isSome_find?_bind {name other : Text} {value : Value} {environment : Environment}
    (bound : (find? name environment).isSome) :
    (find? name (bind other value environment)).isSome := by
  by_cases same : name = other
  · rw [same, find?_bind_self]
    rfl
  · rwa [find?_bind_of_ne same]

end Environment

/-- The loop of a frame lies in a script with a given number of lines. -/
structure Frame.Lies (count : Nat) (frame : Frame) : Prop where
  header_le : frame.header ≤ frame.endIndex
  endIndex_lt : frame.endIndex < count
  body : ∀ line ∈ frame.body, frame.header ≤ line.index ∧ line.index ≤ frame.endIndex

namespace Machine

/-- The machine stands outside of loops. -/
structure Outside (count : Nat) (machine : Machine) : Prop where
  frame_eq : machine.frame = none
  highlight : machine.highlight = none
  cursor : ∀ index, machine.cursor = some index → index < count

/-- The frame of the machine is open, and the cursor stands on a line of its loop. -/
structure Opened (count : Nat) (frame : Frame) (machine : Machine) : Prop where
  frame_eq : machine.frame = some frame
  lies : frame.Lies count
  cursor : ∃ index, machine.cursor = some index ∧ frame.header ≤ index ∧ index ≤ frame.endIndex

/-- The machine stands in a round of a loop: the counter is bound. -/
structure Inside (count : Nat) (frame : Frame) (machine : Machine) : Prop
    extends Opened count frame machine where
  counter : (Environment.find? frame.counter machine.environment).isSome

/-- The machine stands outside of loops or in a round of one. -/
def Placed (count : Nat) (machine : Machine) : Prop :=
  machine.Outside count ∨ ∃ frame, machine.Inside count frame

variable {count : Nat} {frame : Frame} {machine : Machine}

theorem Opened.cursor_lt (opened : machine.Opened count frame) {index : Nat}
    (found : machine.cursor = some index) : index < count := by
  rcases opened.cursor with ⟨other, foundToo, _, within⟩
  obtain rfl : other = index := Option.some.inj (foundToo.symm.trans found)
  exact Nat.lt_of_le_of_lt within opened.lies.endIndex_lt

/-- A placed machine with a frame stands in a round of its loop. -/
theorem Placed.inside (placed : machine.Placed count) (framed : machine.frame = some frame) :
    machine.Inside count frame := by
  rcases placed with outside | ⟨opened, inside⟩
  · simp [outside.frame_eq] at framed
  · obtain rfl : opened = frame := Option.some.inj (inside.frame_eq.symm.trans framed)
    exact inside

theorem Placed.highlight_framed (placed : machine.Placed count)
    (lit : machine.highlight.isSome) : machine.frame.isSome := by
  rcases placed with outside | ⟨opened, inside⟩
  · simp [outside.highlight] at lit
  · simp [inside.frame_eq]

theorem Placed.cursor_lt (placed : machine.Placed count) {index : Nat}
    (found : machine.cursor = some index) : index < count := by
  rcases placed with outside | ⟨opened, inside⟩
  · exact outside.cursor index found
  · exact inside.cursor_lt found

/-- Leaving a loop leads outside of it. -/
theorem Opened.leaveLoop (opened : machine.Opened count frame) :
    machine.leaveLoop.Outside count :=
  ⟨rfl, rfl, fun _ found => opened.cursor_lt found⟩

theorem Opened.countRound (opened : machine.Opened count frame) :
    (machine.countRound frame).1.Opened count (machine.countRound frame).2 :=
  ⟨rfl, ⟨opened.lies.header_le, opened.lies.endIndex_lt, opened.lies.body⟩, opened.cursor⟩

theorem Opened.beginRound {value : Float} {changed : Machine} (opened : machine.Opened count frame)
    (begun : machine.beginRound frame value = .ok changed) : changed.Inside count frame := by
  rw [beginRound_ok begun]
  refine ⟨⟨opened.frame_eq, opened.lies, frame.header, rfl, Nat.le_refl _, ?_⟩, ?_⟩
  · exact opened.lies.header_le
  · exact Option.isSome_of_eq_some (Environment.find?_bind_self _ _ machine.environment)

theorem Inside.endRound {value : Float} {changed : Machine} (inside : machine.Inside count frame)
    (ended : machine.endRound frame = .ok (changed, value)) : changed.Inside count frame := by
  rw [endRound_ok ended]
  refine ⟨⟨inside.frame_eq, inside.lies, frame.header, rfl, Nat.le_refl _, ?_⟩, ?_⟩
  · exact inside.lies.header_le
  · exact Environment.isSome_find?_bind inside.counter

end Machine

/-- The machine stands where a control point in a script expects it. -/
def Control.Stands (lines : List Text) (machine : Machine) : Control → Prop
  | .top rest => rest <:+ numberLines 0 lines ∧ machine.Outside lines.length
  | .test frame _ after => after <:+ numberLines 0 lines ∧ machine.Opened lines.length frame
  | .body frame rest after =>
    after <:+ numberLines 0 lines ∧ rest <:+ frame.body ∧ machine.Inside lines.length frame

/-- What a step leaves behind in a script: a machine that stands where the next control point
expects it, and wherever the run can be left, a machine that is placed. -/
def Step.Stands (lines : List Text) : Step → Prop
  | .go event machine control =>
    control.Stands lines machine ∧ (event.isSome → machine.Placed lines.length)
  | .finish machine => machine.Outside lines.length
  | .fault _ _ => True
  | .breakdown machine _ => machine.Placed lines.length

section Lines

variable {lines : List Text} {rest : List Line}

theorem index_lt_of_mem_suffix (within : rest <:+ numberLines 0 lines) :
    ∀ line ∈ rest, line.index < lines.length := by
  intro line member
  have known : line.index ∈ (numberLines 0 lines).map Line.index :=
    List.mem_map_of_mem (within.subset member)
  rw [index_numberLines, List.mem_range'_1] at known
  omega

theorem pairwise_index_of_suffix (within : rest <:+ numberLines 0 lines) :
    (rest.map Line.index).Pairwise (· < ·) := by
  refine List.Pairwise.sublist (within.sublist.map Line.index) ?_
  rw [index_numberLines]
  exact List.pairwise_lt_range'

theorem Machine.frameOf_lies {line : Line} {header : LoopHeader} {block : Block} {start : Float}
    (within : line :: rest <:+ numberLines 0 lines)
    (extracted : Block.extract line rest = .ok block) :
    (frameOf header line.index block start).Lies lines.length := by
  have sorted := pairwise_index_of_suffix within
  have ordered : line.index ≤ block.endIndex := Block.header_le_endIndex sorted extracted
  constructor
  · exact ordered
  · rcases List.mem_map.mp (Block.endIndex_mem extracted) with ⟨last, member, ends⟩
    have bounded : last.index < lines.length := index_lt_of_mem_suffix within last member
    exact Nat.lt_of_le_of_lt (Nat.le_of_eq ends.symm) bounded
  · intro statement member
    rcases Block.index_between_of_mem_body sorted extracted statement member with same | between
    · exact ⟨Nat.le_of_eq same.symm, same ▸ ordered⟩
    · exact ⟨Nat.le_of_lt between.1, Nat.le_of_lt between.2⟩

end Lines

section Counted

variable {lines : List Text} {machine : Machine} {control : Control}

theorem Control.Stands.counted (stands : control.Stands lines machine) (taken : Nat) :
    control.Stands lines { machine with taken } := by
  cases control with
  | top rest =>
    rcases stands with ⟨within, outside⟩
    exact ⟨within, outside.frame_eq, outside.highlight, outside.cursor⟩
  | test frame value after =>
    rcases stands with ⟨behind, opened⟩
    exact ⟨behind, opened.frame_eq, opened.lies, opened.cursor⟩
  | body frame rest after =>
    rcases stands with ⟨behind, within, inside⟩
    exact ⟨behind, within, ⟨inside.frame_eq, inside.lies, inside.cursor⟩, inside.counter⟩

theorem Machine.Placed.counted {count : Nat} (placed : machine.Placed count) (taken : Nat) :
    Placed count { machine with taken } := by
  rcases placed with outside | ⟨frame, inside⟩
  · exact .inl ⟨outside.frame_eq, outside.highlight, outside.cursor⟩
  · exact .inr ⟨frame, ⟨inside.frame_eq, inside.lies, inside.cursor⟩, inside.counter⟩

end Counted

namespace Place

variable {place : Place} {lines : List Text} {machine : Machine} {line : Line}
  {more rest : List Line}

/-- Passing lines leaves the machine where it stands. -/
theorem stands_pass (passed : rest <:+ more) (stands : (place.control more).Stands lines machine) :
    (place.control rest).Stands lines machine := by
  cases place with
  | top => exact ⟨passed.trans stands.1, stands.2⟩
  | body frame after => exact ⟨stands.1, passed.trans stands.2.1, stands.2.2⟩

/-- A visit moves the cursor to a line of the script, and in a round to a line of the loop. -/
theorem stands_visit (stands : (place.control (line :: more)).Stands lines machine) :
    (place.control more).Stands lines (machine.visit place.inBody line) := by
  refine stands_pass (List.suffix_cons line more) ?_
  cases place with
  | top =>
    rcases stands with ⟨within, outside⟩
    refine ⟨within, outside.frame_eq, outside.highlight, ?_⟩
    intro index found
    exact Option.some.inj found ▸ index_lt_of_mem_suffix within line List.mem_cons_self
  | body frame after =>
    rcases stands with ⟨behind, within, inside⟩
    have between := inside.lies.body line (within.subset List.mem_cons_self)
    exact ⟨behind, within, ⟨inside.frame_eq, inside.lies, line.index, rfl, between⟩, inside.counter⟩

theorem stands_arrive (holds : Bool)
    (stands : (place.control (line :: more)).Stands lines machine) :
    (place.control more).Stands lines (machine.arrive holds place line) := by
  cases holds with
  | true => exact stands_visit stands
  | false => exact stands_pass (List.suffix_cons line more) stands

/-- Behind a condition a machine stands in front of what may be its consequence. -/
theorem stands_judged (place : Place) {limits : Limits} {condition : Text} {value : Value}
    {behind : List Line}
    (judged : Step.Judged limits machine line more condition value behind)
    (stands : (place.control (line :: more)).Stands lines machine) :
    (place.control behind).Stands lines (machine.visit place.inBody line) :=
  stands_pass judged.behind_isSuffix (stands_visit stands)

/-- Writing a variable leaves the machine where it stands, whatever constants are known. -/
theorem stands_written (name : Text) (value : Value) (constants : List (Text × Nat))
    (stands : (place.control more).Stands lines machine) :
    (place.control more).Stands lines ({ machine with constants }.written name value) := by
  cases place with
  | top =>
    rcases stands with ⟨within, outside⟩
    exact ⟨within, outside.frame_eq, outside.highlight, outside.cursor⟩
  | body frame after =>
    rcases stands with ⟨behind, within, inside⟩
    refine ⟨behind, within, ⟨inside.frame_eq, inside.lies, inside.cursor⟩, ?_⟩
    exact Environment.isSome_find?_bind inside.counter

theorem placed (stands : (place.control more).Stands lines machine) :
    machine.Placed lines.length := by
  cases place with
  | top => exact .inl stands.2
  | body frame after => exact .inr ⟨frame, stands.2.2⟩

end Place

variable {limits : Limits} {lines : List Text} {machine : Machine} {control : Control}

/-- Every step finds the machine where its control point expects it, and leaves it where the next
one does. -/
theorem step_stands {result : Step} (stands : control.Stands lines machine)
    (steps : step limits machine control = result) : result.Stands lines := by
  cases Step.rule_of_step steps with
  | finish => exact stands.2
  | unreadable => exact Place.placed stands
  | silent => exact ⟨Place.stands_pass (List.suffix_cons _ _) stands, by simp⟩
  | ignored => exact ⟨Place.stands_visit stands, by simp⟩
  | @declared place line more name expression keyword changed classified within declared =>
    rcases Machine.declare_ok declared with ⟨value, constants, _, rfl⟩
    have written := Place.stands_written name value constants (Place.stands_visit stands)
    exact ⟨written, fun _ => Place.placed written⟩
  | declarationBreakdown => exact Place.placed (Place.stands_visit stands)
  | @assigned place line more name expression index changed classified within assigned =>
    rcases Machine.assign_ok assigned with ⟨value, rfl⟩
    have written := Place.stands_written name value machine.constants (Place.stands_visit stands)
    exact ⟨written, fun _ => Place.placed written⟩
  | conditionLast judged => exact ⟨Place.stands_judged _ judged stands, by simp⟩
  | consequenceUnreadable => exact Place.placed (Place.stands_visit stands)
  | @consequenceAssigned place line next more rest condition name expression index truth changed
      judged consequence holds withinNext assigned =>
    rcases Machine.assign_ok assigned with ⟨value, rfl⟩
    have visited := Place.stands_visit (Place.stands_judged _ judged stands)
    have written := Place.stands_written name value machine.constants visited
    exact ⟨written, fun _ => Place.placed written⟩
  | consequencePassed judged =>
    exact ⟨Place.stands_arrive _ (Place.stands_judged _ judged stands), by simp⟩
  | consequenceBlock judged consequence withinNext extracted =>
    have visited := Place.stands_judged .top judged stands
    have passed := Block.after_isSuffix extracted
    exact ⟨Place.stands_pass passed (Place.stands_arrive _ visited), by simp⟩
  | @loopEntered line more header block entered frame value classified within extracted started =>
    rcases Machine.enterLoop_ok started with ⟨rfl, rfl⟩
    rcases stands with ⟨inScript, _⟩
    have lies : (Machine.frameOf header line.index block value).Lies lines.length :=
      Machine.frameOf_lies inScript extracted
    have after := (Block.after_isSuffix extracted).trans ((List.suffix_cons _ _).trans inScript)
    exact ⟨⟨after, rfl, lies, line.index, rfl, Nat.le_refl _, lies.header_le⟩, by simp⟩
  | loopLeft =>
    rcases stands with ⟨after, opened⟩
    exact ⟨⟨after, opened.leaveLoop⟩, by simp⟩
  | roundBegun goesOn within begun =>
    rcases stands with ⟨behind, opened⟩
    have inside := opened.countRound.beginRound begun
    exact ⟨⟨behind, List.suffix_rfl, inside⟩, fun _ => .inr ⟨_, inside⟩⟩
  | incremented ended =>
    rcases stands with ⟨behind, _, inside⟩
    have changed := inside.endRound ended
    exact ⟨⟨behind, changed.toOpened⟩, fun _ => .inr ⟨_, changed⟩⟩
  | _ => trivial

/-- In front of the first line a machine stands outside of loops. -/
theorem Control.stands_started (lines : List Text) :
    (Control.top (numberLines 0 lines)).Stands lines .started :=
  ⟨List.suffix_rfl, rfl, rfl, by simp [Machine.started, Machine.initial, Machine.record]⟩

/-- What a run finds where it stops next. -/
def Stop.Stands (lines : List Text) : Stop → Prop
  | .change _ machine control => control.Stands lines machine ∧ machine.Placed lines.length
  | .finish machine => machine.Outside lines.length
  | .fault _ _ => True
  | .breakdown machine _ => machine.Placed lines.length

theorem nextStop_stands (stands : control.Stands lines machine) :
    (nextStop limits machine control).Stands lines := by
  fun_induction nextStop limits machine control with
  | case1 machine control middle reached goes ih => exact ih (step_stands stands goes).1
  | case2 machine control event changed reached goes =>
    rcases step_stands stands goes with ⟨onwards, placed⟩
    exact ⟨onwards, placed rfl⟩
  | case3 machine control ended ends => exact step_stands stands ends
  | case4 => trivial
  | case5 machine control stopped cause breaks => exact step_stands stands breaks

end StepScript

import StepScript.Proofs.Run.Rule

/-!
# Operations that succeed

What each operation of the machine leaves behind when it succeeds, written as an update of the
machine it began with.  Proofs about steps take an operation apart by these lemmas and do not open
its definition.
-/

namespace StepScript.Machine

variable {machine changed : Machine}

/-- The machine with a variable written. -/
def written (name : Text) (value : Value) (machine : Machine) : Machine :=
  { machine with
    environment := Environment.bind name value machine.environment
    arrayName := if value.isArray then some name else machine.arrayName }

@[simp] theorem visit_environment (inBody : Bool) (line : Line) (machine : Machine) :
    (machine.visit inBody line).environment = machine.environment := rfl

@[simp] theorem arrive_environment (holds : Bool) (place : Place) (line : Line)
    (machine : Machine) : (machine.arrive holds place line).environment = machine.environment := by
  cases holds <;> rfl

@[simp] theorem arrive_taken (holds : Bool) (place : Place) (line : Line) (machine : Machine) :
    (machine.arrive holds place line).taken = machine.taken := by
  cases holds <;> rfl

@[simp] theorem arrive_constants (holds : Bool) (place : Place) (line : Line)
    (machine : Machine) : (machine.arrive holds place line).constants = machine.constants := by
  cases holds <;> rfl

/-- Passing or visiting a line only adds to the log. -/
theorem arrive_entries (holds : Bool) (place : Place) (line : Line) (machine : Machine) :
    machine.entries <:+ (machine.arrive holds place line).entries := by
  cases holds with
  | true => exact List.suffix_cons _ _
  | false => exact List.suffix_rfl

theorem bind_ok {name : Text} {value : Value} {line : Option Nat}
    (bound : machine.bind name value line = .ok changed) :
    changed = machine.written name value := by
  unfold bind at bound
  split at bound
  · simp at bound
  · exact (Except.ok.inj bound).symm

theorem noteConstant_eq (name : Text) (machine : Machine) :
    ∃ constants, machine.noteConstant name = { machine with constants } := by
  unfold noteConstant
  split
  · exact ⟨_, rfl⟩
  · exact ⟨machine.constants, rfl⟩

@[simp] theorem noteConstant_cursor (name : Text) (machine : Machine) :
    (machine.noteConstant name).cursor = machine.cursor := by
  rcases noteConstant_eq name machine with ⟨constants, noted⟩
  rw [noted]

@[simp] theorem noteConstant_environment (name : Text) (machine : Machine) :
    (machine.noteConstant name).environment = machine.environment := by
  rcases noteConstant_eq name machine with ⟨constants, noted⟩
  rw [noted]

/-- A declaration binds its variable as the line of the cursor, once a constant is noted. -/
theorem exists_bind_of_declare {name expression : Text} {keyword : Keyword}
    (declared : machine.declare name expression keyword = .ok changed) :
    ∃ value, declaredValue expression machine.environment = .ok value ∧
      (if keyword = .constWord then machine.noteConstant name else machine).bind name value
        machine.cursor = .ok changed := by
  unfold declare at declared
  split at declared
  · cases declared
  next value evaluated =>
    refine ⟨value, evaluated, ?_⟩
    have stands : (if keyword = .constWord then machine.noteConstant name else machine).cursor =
        machine.cursor := by
      split
      · exact noteConstant_cursor name machine
      · rfl
    dsimp only at declared
    rw [stands] at declared
    cases bound : (if keyword = .constWord then machine.noteConstant name else machine).bind name
      value machine.cursor with
    | error cause =>
      rw [bound] at declared
      cases declared
    | ok after =>
      rw [bound] at declared
      exact congrArg _ (Except.ok.inj declared)

theorem declare_ok {name expression : Text} {keyword : Keyword}
    (declared : machine.declare name expression keyword = .ok changed) :
    ∃ value constants, declaredValue expression machine.environment = .ok value ∧
      changed = { machine with constants }.written name value := by
  rcases exists_bind_of_declare declared with ⟨value, evaluated, bound⟩
  rcases noteConstant_eq name machine with ⟨constants, noted⟩
  split at bound
  · exact ⟨value, constants, evaluated, noted ▸ bind_ok bound⟩
  · exact ⟨value, machine.constants, evaluated, bind_ok bound⟩

theorem exists_bind_of_assign {name expression : Text} {index : Option Text}
    (assigned : machine.assign name expression index = .ok changed) :
    ∃ value, machine.bind name value none = .ok changed := by
  unfold assign at assigned
  split at assigned
  · cases assigned
  · split at assigned
    · exact ⟨_, assigned⟩
    · split at assigned
      · cases assigned
      · exact ⟨_, assigned⟩

theorem assign_ok {name expression : Text} {index : Option Text}
    (assigned : machine.assign name expression index = .ok changed) :
    ∃ value, changed = machine.written name value := by
  rcases exists_bind_of_assign assigned with ⟨value, bound⟩
  exact ⟨value, bind_ok bound⟩

/-- The frame of a loop whose header stands on a line. -/
def frameOf (header : LoopHeader) (line : Nat) (block : Block) (start : Float) : Frame :=
  { counter := header.counter
    start
    tested := header.tested
    comparator := header.comparator
    bound := header.bound
    step := header.step
    body := block.body
    header := line
    endIndex := block.endIndex
    iterations := 0 }

theorem enterLoop_ok {header : LoopHeader} {line : Nat} {block : Block} {entered : Machine}
    {frame : Frame} {value : Float}
    (started : machine.enterLoop header line block = .ok (entered, frame, value)) :
    frame = frameOf header line block value ∧
      entered = { machine with frame := some (frameOf header line block value) } := by
  unfold enterLoop at started
  split at started
  · simp at started
  · split at started
    · simp at started
    · simp only [Except.ok.injEq, Prod.mk.injEq] at started
      rcases started with ⟨rfl, rfl, rfl⟩
      exact ⟨rfl, rfl⟩

theorem beginRound_of_bind {frame : Frame} {value : Float} {bound : Machine}
    (binds : machine.bind frame.counter (.number value) none = .ok bound) :
    machine.beginRound frame value =
      .ok { bound with highlight := bound.highlightFor value, cursor := some frame.header } := by
  rw [beginRound, binds]

theorem exists_bind_of_beginRound {frame : Frame} {value : Float}
    (begun : machine.beginRound frame value = .ok changed) :
    ∃ bound, machine.bind frame.counter (.number value) none = .ok bound ∧
      changed =
        { bound with highlight := bound.highlightFor value, cursor := some frame.header } := by
  unfold beginRound at begun
  split at begun
  · cases begun
  next bound written => exact ⟨bound, written, (Except.ok.inj begun).symm⟩

theorem beginRound_ok {frame : Frame} {value : Float}
    (begun : machine.beginRound frame value = .ok changed) :
    changed = { machine.written frame.counter (.number value) with
      highlight := (machine.written frame.counter (.number value)).highlightFor value
      cursor := some frame.header } := by
  rcases exists_bind_of_beginRound begun with ⟨bound, binds, rfl⟩
  rw [bind_ok binds]

theorem endRound_of_bind {frame : Frame} {value : Value} {number : Float} {bound : Machine}
    (found : Environment.find? frame.counter machine.environment = some value)
    (numeric : value.toNumber (some frame.counter) = .ok number)
    (binds : machine.bind frame.counter (.number (number + frame.step)) none = .ok bound) :
    machine.endRound frame =
      .ok ({ bound with cursor := some frame.header }, number + frame.step) := by
  simp only [endRound, found, numeric, binds]

theorem exists_bind_of_endRound {frame : Frame} {next : Float}
    (ended : machine.endRound frame = .ok (changed, next)) :
    ∃ bound, machine.bind frame.counter (.number next) none = .ok bound ∧
      changed = { bound with cursor := some frame.header } := by
  unfold endRound at ended
  split at ended
  · cases ended
  · split at ended
    · cases ended
    · dsimp only at ended
      split at ended
      · cases ended
      next bound written =>
        cases ended
        exact ⟨bound, written, rfl⟩

theorem endRound_ok {frame : Frame} {next : Float}
    (ended : machine.endRound frame = .ok (changed, next)) :
    changed =
      { machine.written frame.counter (.number next) with cursor := some frame.header } := by
  rcases exists_bind_of_endRound ended with ⟨bound, binds, rfl⟩
  rw [bind_ok binds]

end StepScript.Machine

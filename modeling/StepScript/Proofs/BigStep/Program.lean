import Mathlib
import StepScript.Run.Machine
import StepScript.Run.Report
import StepScript.Statement.Classify
import StepScript.Text.Lines

/-!
# Scripts as trees

A script is resolved into a tree before it runs, and the tree is evaluated by plain recursion over
its variables and constants.  Nothing in an evaluation is a position in the script: where a loop
ends and what a condition governs is settled by `resolve`, whatever the values are.
-/

namespace StepScript.BigStep

/-! ## Resolving a script -/

/-- What the line behind a condition comes to. -/
inductive Consequence where
  | idle
  | assign (name expression : Text) (index : Option Text)
  | fail (failure : Failure)

/-- A statement with everything that belongs to it. -/
inductive Node where
  | declare (line : Nat) (name expression : Text) (keyword : Keyword)
  | assign (name expression : Text) (index : Option Text)
  | idle
  | conditional (condition : Text) (consequence : Consequence)
  | loop (header : LoopHeader) (body : List Node)
  | fail (failure : Failure)

/-- What stands behind a condition, from the first line on that is more than a brace, and the lines
behind that.  A loop outside of loops is passed with its block. -/
def consequence (inBody : Bool) (lines : List Line) : Consequence × List Line :=
  match lines.dropWhile fun line => isBraceOnly line.text with
  | [] => (.idle, [])
  | line :: rest =>
    match classify line.text with
    | .error cause => (.fail (.breakdown cause), rest)
    | .ok (.assignment name expression index) => (.assign name expression index, rest)
    | .ok (.loop _) =>
      if inBody then (.idle, rest)
      else
        match Block.extract line rest with
        | .error cause => (.fail (.fault cause), [])
        | .ok block => (.idle, block.after)
    | .ok _ => (.idle, rest)

theorem length_consequence (inBody : Bool) (lines : List Line) :
    (consequence inBody lines).2.length ≤ lines.length := by
  refine Nat.le_trans ?_ (List.dropWhile_suffix fun line : Line => isBraceOnly line.text).length_le
  unfold consequence
  generalize lines.dropWhile (fun line => isBraceOnly line.text) = behind
  cases behind with
  | nil => exact Nat.le_refl _
  | cons line rest =>
    dsimp only
    split
    · exact Nat.le_succ _
    · exact Nat.le_succ _
    · split
      · exact Nat.le_succ _
      · split
        · exact Nat.zero_le _
        next block extracted => exact Nat.le_succ_of_le (Block.length_after_extract extracted)
    · exact Nat.le_succ _

/-- The tree of some lines.  The body of a loop is flat: a loop header in it has no effect. -/
def resolve (inBody : Bool) : List Line → List Node
  | [] => []
  | line :: rest =>
    match classify line.text with
    | .error cause => .fail (.breakdown cause) :: resolve inBody rest
    | .ok .blank | .ok (.comment _) => resolve inBody rest
    | .ok (.declaration name expression keyword) =>
      .declare line.index name expression keyword :: resolve inBody rest
    | .ok (.assignment name expression index) =>
      .assign name expression index :: resolve inBody rest
    | .ok (.unrecognized _) => .idle :: resolve inBody rest
    | .ok (.conditional condition) =>
      .conditional condition (consequence inBody rest).1 ::
        resolve inBody (consequence inBody rest).2
    | .ok (.loop header) =>
      if inBody then .idle :: resolve inBody rest
      else
        match _extracted : Block.extract line rest with
        | .error cause => [.fail (.fault cause)]
        | .ok block => .loop header (resolve true block.body) :: resolve inBody block.after
termination_by lines => (if inBody then 0 else 1, lines.length)
decreasing_by
  any_goals exact .right _ (Nat.lt_succ_self _)
  · exact .right _ (Nat.lt_succ_of_le (length_consequence inBody rest))
  -- A body may be longer than the lines ahead, but there are no bodies in it.
  · rw [if_pos trivial, if_neg (by assumption)]
    exact .left _ _ Nat.one_pos
  · exact .right _ (Nat.lt_succ_of_le (Block.length_after_extract _extracted))

section Loop

variable {line : Line} {rest : List Line} {header : LoopHeader}

theorem resolve_of_unclosed {cause : Fault} (classified : classify line.text = .ok (.loop header))
    (unclosed : Block.extract line rest = .error cause) :
    resolve false (line :: rest) = [.fail (.fault cause)] := by
  rw [resolve, classified]
  dsimp only
  rw [if_neg Bool.false_ne_true]
  split
  next found => rw [Except.error.inj (found.symm.trans unclosed)]
  next found => cases found.symm.trans unclosed

theorem resolve_of_extracted {block : Block} (classified : classify line.text = .ok (.loop header))
    (extracted : Block.extract line rest = .ok block) :
    resolve false (line :: rest) =
      .loop header (resolve true block.body) :: resolve false block.after := by
  rw [resolve, classified]
  dsimp only
  rw [if_neg Bool.false_ne_true]
  split
  next found => cases found.symm.trans extracted
  next found => rw [Except.ok.inj (found.symm.trans extracted)]

end Loop

/-- The tree of a script. -/
def program (script : Text) : List Node :=
  resolve false (numberLines 0 (Text.lines script))

/-! ## Evaluating a tree -/

/-- The variables of a run, and its constants, each with the line that declares it. -/
structure Memory where
  environment : Environment
  constants : List (Text × Nat)

/-- An evaluation ends with a value, or with a failure and the memory that it leaves, or never. -/
abbrev Evaluation (α : Type) :=
  ExceptT (Failure × Memory) Part α

namespace Evaluation

variable {α β : Type}

@[simp] theorem throw_bind (failed : Failure × Memory) (next : α → Evaluation β) :
    (throw failed : Evaluation α) >>= next = throw failed := by
  apply ExceptT.ext
  rw [ExceptT.run_bind]
  exact pure_bind _ _

/-- What a round leads to: the end of the iteration, or the state in front of the next round. -/
def transition (round : α → Evaluation (β ⊕ α)) : α →. Except (Failure × Memory) β ⊕ α :=
  fun state => (round state).run.map fun
    | .error failed => .inl (.error failed)
    | .ok (.inl result) => .inl (.ok result)
    | .ok (.inr next) => .inr next

/-- Goes from round to round until one of them gives a result or fails. -/
def iterate (round : α → Evaluation (β ⊕ α)) (state : α) : Evaluation β :=
  ExceptT.mk ((transition round).fix state)

theorem mem_iterate_run {round : α → Evaluation (β ⊕ α)} {state : α}
    {result : Except (Failure × Memory) β} :
    result ∈ (iterate round state).run ↔ result ∈ (transition round).fix state :=
  Iff.rfl

theorem iterate_eq (round : α → Evaluation (β ⊕ α)) (state : α) :
    iterate round state = round state >>= Sum.elim pure (iterate round) := by
  apply ExceptT.ext
  apply Part.ext
  intro result
  -- Both sides first ask what the round in front leads to.
  rw [mem_iterate_run, PFun.mem_fix_iff, ExceptT.run_bind, Part.bind_eq_bind]
  simp only [transition, Part.mem_map_iff, Part.mem_bind_iff]
  constructor
  · rintro (⟨passed, done, same⟩ | ⟨next, ⟨passed, done, same⟩, left⟩)
    · refine ⟨passed, done, ?_⟩
      rcases passed with failed | final | next <;> simp_all
    · refine ⟨passed, done, ?_⟩
      rcases passed with failed | final | next <;> simp_all [mem_iterate_run]
  · rintro ⟨passed, done, found⟩
    rcases passed with failed | final | next
    · exact .inl ⟨_, done, congrArg Sum.inl (Part.mem_some_iff.mp found).symm⟩
    · exact .inl ⟨_, done, congrArg Sum.inl (Part.mem_some_iff.mp found).symm⟩
    · exact .inr ⟨next, ⟨_, done, rfl⟩, found⟩

end Evaluation

namespace Memory

variable {α : Type}

/-- The memory without variables. -/
def empty : Memory :=
  ⟨[], []⟩

/-- Does what can fail, and leaves the memory behind if it fails. -/
def attempt (memory : Memory) : Except Failure α → Evaluation α
  | .ok value => pure value
  | .error failure => throw (failure, memory)

/-- The same for what can only fail with a fault. -/
def demand (memory : Memory) (result : Except Fault α) : Evaluation α :=
  memory.attempt (result.mapError .fault)

/-- Gives a variable a value.  A constant may only be bound again by the line that declares it. -/
def bind (name : Text) (value : Value) (line : Option Nat) (memory : Memory) :
    Except Fault Memory :=
  match memory.constants.lookup name with
  | none => .ok { memory with environment := Environment.bind name value memory.environment }
  | some declared =>
    if line = some declared then
      .ok { memory with environment := Environment.bind name value memory.environment }
    else .error (.constReassigned name)

/-- Notes that a line declares a constant, unless the constant was known before. -/
def noteConstant (name : Text) (line : Nat) (memory : Memory) : Memory :=
  match memory.constants.lookup name with
  | none => { memory with constants := memory.constants ++ [(name, line)] }
  | some _ => memory

/-- Declares a variable. -/
def declare (line : Nat) (name expression : Text) (keyword : Keyword) (memory : Memory) :
    Except Failure Memory :=
  match Machine.declaredValue expression memory.environment with
  | .error failure => .error failure
  | .ok value =>
    let noted := if keyword = .constWord then memory.noteConstant name line else memory
    (noted.bind name value (some line)).mapError .fault

def assign (name expression : Text) (index : Option Text) (memory : Memory) : Except Fault Memory :=
  match evaluateText expression memory.environment with
  | .error fault => .error fault
  | .ok value =>
    match index with
    | none => memory.bind name value none
    | some index =>
      match Machine.updatedArray name expression index value memory.environment with
      | .error fault => .error fault
      | .ok updated => memory.bind name updated none

end Memory

/-- What a loop needs in each round. -/
structure Clauses where
  counter : Text
  tested : Text
  comparator : Comparator
  bound : Text
  step : Float

namespace Clauses

/-- The clauses of a loop header. -/
def ofHeader (header : LoopHeader) : Clauses :=
  ⟨header.counter, header.tested, header.comparator, header.bound, header.step⟩

/-- Whether the loop goes on with a value of its counter. -/
def holds (clauses : Clauses) (value : Float) (environment : Environment) : Except Fault Bool :=
  let scope := Environment.bind clauses.counter (.number value) environment
  match Environment.find? clauses.tested scope with
  | none => .error (.undefinedVariable clauses.tested)
  | some tested =>
    match evaluateText clauses.bound scope with
    | .error fault => .error fault
    | .ok bound =>
      let part := clauses.tested ++ ' ' :: clauses.comparator.symbol ++ ' ' :: clauses.bound
      clauses.comparator.compare tested bound (some part)

/-- Changes the counter at the end of a round, and returns its new value. -/
def increment (clauses : Clauses) (memory : Memory) : Except Fault (Memory × Float) :=
  match Environment.find? clauses.counter memory.environment with
  | none => .error (.undefinedVariable clauses.counter)
  | some value =>
    match value.toNumber (some clauses.counter) with
    | .error fault => .error fault
    | .ok number =>
      match memory.bind clauses.counter (.number (number + clauses.step)) none with
      | .error fault => .error fault
      | .ok bound => .ok (bound, number + clauses.step)

end Clauses

def startValue (header : LoopHeader) (environment : Environment) : Except Fault Float :=
  match evaluateText header.start environment with
  | .error fault => .error fault
  | .ok value => value.toNumber (some header.start)

section Loop

variable (clauses : Clauses) (body : Memory → Evaluation Memory) (value : Float) (memory : Memory)

/-- A round of a loop, from its test on: the memory behind the loop if the test ends it, and
otherwise the next value of the counter and the memory with it. -/
def round : Evaluation (Memory ⊕ Float × Memory) := do
  if ← memory.demand (clauses.holds value memory.environment) then
    let bound ← memory.demand (memory.bind clauses.counter (.number value) none)
    let passed ← body bound
    let (changed, next) ← passed.demand (clauses.increment passed)
    return .inr (next, changed)
  else return .inl memory

/-- The rounds of a loop from a value of its counter on. -/
def rounds : Evaluation Memory :=
  Evaluation.iterate (fun (value, memory) => round clauses body value memory) (value, memory)

theorem rounds_eq :
    rounds clauses body value memory = do
      if ← memory.demand (clauses.holds value memory.environment) then
        let bound ← memory.demand (memory.bind clauses.counter (.number value) none)
        let passed ← body bound
        let (changed, next) ← passed.demand (clauses.increment passed)
        rounds clauses body next changed
      else return memory := by
  rw [rounds, Evaluation.iterate_eq]
  show round clauses body value memory >>= _ = _
  rw [round, bind_assoc]
  congr 1
  funext goesOn
  cases goesOn with
  | false => exact pure_bind _ _
  | true =>
    simp only [if_pos, bind_assoc, pure_bind]
    rfl

end Loop

/-- Evaluates the consequence of a condition. -/
def Consequence.run (holds : Bool) (memory : Memory) : Consequence → Evaluation Memory
  | .idle => return memory
  | .assign name expression index =>
    if holds then memory.demand (memory.assign name expression index) else return memory
  | .fail failure => throw (failure, memory)

mutual

/-- Evaluates a statement. -/
def Node.run : Node → Memory → Evaluation Memory
  | .declare line name expression keyword, memory =>
    memory.attempt (memory.declare line name expression keyword)
  | .assign name expression index, memory => memory.demand (memory.assign name expression index)
  | .idle, memory => return memory
  | .conditional condition consequence, memory => do
    let value ← memory.demand (evaluateText condition memory.environment)
    consequence.run value.truthy memory
  | .loop header body, memory => do
    let value ← memory.demand (startValue header memory.environment)
    rounds (.ofHeader header) (fun bound => runAll body bound) value memory
  | .fail failure, memory => throw (failure, memory)

/-- Evaluates statements one after the other. -/
def runAll : List Node → Memory → Evaluation Memory
  | [], memory => return memory
  | node :: rest, memory => do
    let passed ← node.run memory
    runAll rest passed

end

def failureMessage : Failure → String
  | .fault cause => cause.message
  | .breakdown cause => cause.message

/-- Evaluates a script. -/
def evaluate (script : Text) : Part (Except (Failure × Memory) Memory) :=
  (runAll (program script) .empty).run

/-- What is told about the end of a script: the phase, the status line, the message of the error
and the variables. -/
structure Verdict where
  phase : Phase
  output : String
  error : Option String
  environment : Environment

def verdict : Except (Failure × Memory) Memory → Verdict
  | .ok memory => ⟨.completed, "✓ Execution completed successfully", none, memory.environment⟩
  | .error (failure, memory) =>
    let message := failureMessage failure
    ⟨.failed, s!"✗ Error: {message}", some message, memory.environment⟩

end StepScript.BigStep

import StepScript.Proofs.BigStep.Program
import StepScript.Proofs.Run.Course
import StepScript.Proofs.Run.Operation

/-!
# Runs evaluate their trees

From each control point on, what is left of a run means an evaluation: that of the tree of the lines
ahead, and inside a loop that of the rounds that are left.  A step that goes on does not change this
meaning, and a step that ends the run, unless a limit does, ends as the evaluation does
(`step_means`).  A whole run therefore evaluates the tree of its script.
-/

namespace StepScript

open BigStep

/-! ## The memory of a machine -/

/-- What an evaluation sees of a machine. -/
def Machine.memory (machine : Machine) : Memory :=
  ⟨machine.environment, machine.constants⟩

/-- The clauses of a loop that is under way. -/
def Frame.clauses (frame : Frame) : Clauses :=
  ⟨frame.counter, frame.tested, frame.comparator, frame.bound, frame.step⟩

namespace Frame

@[simp] theorem clauses_counter (frame : Frame) : frame.clauses.counter = frame.counter := rfl

@[simp] theorem clauses_step (frame : Frame) : frame.clauses.step = frame.step := rfl

theorem goesOn_eq_holds (frame : Frame) (value : Float) (environment : Environment) :
    Machine.goesOn frame value environment = frame.clauses.holds value environment := rfl

end Frame

namespace Machine

variable {machine : Machine}

@[simp] theorem memory_environment (machine : Machine) :
    machine.memory.environment = machine.environment := rfl

@[simp] theorem memory_constants (machine : Machine) :
    machine.memory.constants = machine.constants := rfl

@[simp] theorem visit_memory (inBody : Bool) (line : Line) (machine : Machine) :
    (machine.visit inBody line).memory = machine.memory := rfl

@[simp] theorem arrive_memory (holds : Bool) (place : Place) (line : Line) (machine : Machine) :
    (machine.arrive holds place line).memory = machine.memory := by
  cases holds <;> rfl

theorem bind_memory (machine : Machine) (name : Text) (value : Value) (line : Option Nat) :
    machine.memory.bind name value line = (machine.bind name value line).map memory := by
  rw [Memory.bind, Machine.bind, constantLine?, memory_constants]
  cases machine.constants.lookup name with
  | none => rfl
  | some declared =>
    by_cases same : line = some declared
    · simp [same, Except.map, memory]
    · simp [same, Ne.symm same, Except.map]

theorem noteConstant_memory {line : Nat} (cursor : machine.cursor = some line) (name : Text) :
    machine.memory.noteConstant name line = (machine.noteConstant name).memory := by
  rw [Memory.noteConstant, noteConstant, constantLine?, cursor, memory_constants]
  cases known : machine.constants.lookup name <;> rfl

theorem declare_memory {line : Nat} {name expression : Text} {keyword : Keyword}
    {result : Except Failure Machine} (cursor : machine.cursor = some line)
    (declared : machine.declare name expression keyword = result) :
    machine.memory.declare line name expression keyword = result.map memory := by
  subst declared
  have written : ∀ (noted : Machine) (value : Value), noted.cursor = some line →
      (noted.memory.bind name value (some line)).mapError Failure.fault =
        ((noted.bind name value noted.cursor).mapError .fault).map memory := by
    intro noted value stands
    rw [stands, bind_memory]
    cases noted.bind name value (some line) <;> rfl
  rw [Memory.declare, declare, memory_environment]
  cases declaredValue expression machine.environment with
  | error failure => rfl
  | ok value =>
    dsimp only
    by_cases constant : keyword = .constWord
    · rw [if_pos constant, if_pos constant, noteConstant_memory cursor]
      exact written _ value ((noteConstant_cursor name machine).trans cursor)
    · rw [if_neg constant, if_neg constant]
      exact written _ value cursor

theorem assign_memory {name expression : Text} {index : Option Text} {result : Except Fault Machine}
    (assigned : machine.assign name expression index = result) :
    machine.memory.assign name expression index = result.map memory := by
  subst assigned
  rw [Memory.assign, assign, memory_environment]
  cases evaluateText expression machine.environment with
  | error fault => rfl
  | ok value =>
    cases index with
    | none => exact bind_memory machine name value none
    | some index =>
      dsimp only
      cases updatedArray name expression index value machine.environment with
      | error fault => rfl
      | ok updated => exact bind_memory machine name updated none

theorem startValue_of_enterLoop {header : LoopHeader} {line : Nat} {block : Block}
    {result : Except Fault (Machine × Frame × Float)}
    (started : machine.enterLoop header line block = result) :
    startValue header machine.environment = result.map fun entered => entered.2.2 := by
  subst started
  unfold startValue enterLoop
  cases evaluateText header.start machine.environment with
  | error fault => rfl
  | ok value =>
    dsimp only
    cases value.toNumber (some header.start) <;> rfl

theorem beginRound_memory {frame : Frame} {value : Float} {result : Except Fault Machine}
    (begun : machine.beginRound frame value = result) :
    machine.memory.bind frame.counter (.number value) none = result.map memory := by
  subst begun
  rw [bind_memory, beginRound]
  cases machine.bind frame.counter (.number value) none <;> rfl

theorem endRound_memory {frame : Frame} {result : Except Fault (Machine × Float)}
    (ended : machine.endRound frame = result) :
    frame.clauses.increment machine.memory =
      result.map fun (machine, next) => (machine.memory, next) := by
  subst ended
  rw [Clauses.increment, endRound, Frame.clauses_counter, Frame.clauses_step, memory_environment]
  cases Environment.find? frame.counter machine.environment with
  | none => rfl
  | some value =>
    dsimp only
    cases value.toNumber (some frame.counter) with
    | error fault => rfl
    | ok number =>
      dsimp only
      rw [bind_memory]
      cases machine.bind frame.counter (.number (number + frame.step)) none <;> rfl

end Machine

/-! ## Evaluations -/

namespace BigStep

variable {α : Type}

@[simp] theorem Memory.demand_ok (memory : Memory) (value : α) :
    memory.demand (.ok value) = pure value := rfl

@[simp] theorem Memory.demand_error (memory : Memory) (fault : Fault) :
    memory.demand (.error fault : Except Fault α) = throw (.fault fault, memory) := rfl

end BigStep

/-! ## What is left of a run -/

/-- What is left of a run in front of the test of a loop. -/
def Frame.meaning (frame : Frame) (value : Float) (after : List Line) (memory : Memory) :
    Evaluation Memory := do
  let left ← rounds frame.clauses (fun bound => runAll (resolve true frame.body) bound) value memory
  runAll (resolve false after) left

/-- What is left of a run behind the lines at a place. -/
def Place.meaningBehind (memory : Memory) : Place → Evaluation Memory
  | .top => return memory
  | .body frame after => do
    let (changed, next) ← memory.demand (frame.clauses.increment memory)
    frame.meaning next after changed

/-- What is left of a run in front of lines at a place. -/
def Place.meaning (place : Place) (lines : List Line) (memory : Memory) : Evaluation Memory := do
  let passed ← runAll (resolve place.inBody lines) memory
  place.meaningBehind passed

/-- What is left of a run at a control point. -/
def Control.meaning (memory : Memory) : Control → Evaluation Memory
  | .top rest => Place.top.meaning rest memory
  | .test frame value after => frame.meaning value after memory
  | .body frame rest after => (Place.body frame after).meaning rest memory

theorem Place.meaning_control (place : Place) (lines : List Line) (memory : Memory) :
    (place.control lines).meaning memory = place.meaning lines memory := by
  cases place <;> rfl

namespace Frame

variable {frame : Frame} {value next : Float} {after : List Line} {memory passed : Memory}
  {cause : Fault}

theorem meaning_of_fault (failed : Machine.goesOn frame value memory.environment = .error cause) :
    frame.meaning value after memory = throw (.fault cause, memory) := by
  rw [meaning, rounds_eq, ← goesOn_eq_holds, failed]
  simp

theorem meaning_of_ended (ended : Machine.goesOn frame value memory.environment = .ok false) :
    frame.meaning value after memory = runAll (resolve false after) memory := by
  rw [meaning, rounds_eq, ← goesOn_eq_holds, ended]
  simp

theorem meaning_of_unbound (goesOn : Machine.goesOn frame value memory.environment = .ok true)
    (failed : memory.bind frame.counter (.number value) none = .error cause) :
    frame.meaning value after memory = throw (.fault cause, memory) := by
  rw [meaning, rounds_eq, ← goesOn_eq_holds, goesOn, Memory.demand_ok, pure_bind, if_pos rfl,
    clauses_counter, failed]
  simp

/-- A loop that goes on runs its body once, and then what is left of the round. -/
theorem meaning_of_bound (goesOn : Machine.goesOn frame value memory.environment = .ok true)
    (bound : memory.bind frame.counter (.number value) none = .ok passed) :
    frame.meaning value after memory = (Place.body frame after).meaning frame.body passed := by
  rw [meaning, rounds_eq, ← goesOn_eq_holds, goesOn, Memory.demand_ok, pure_bind, if_pos rfl,
    clauses_counter, bound, Memory.demand_ok, pure_bind, bind_assoc, Place.meaning]
  congr 1
  funext left
  rw [bind_assoc]
  rfl

theorem meaning_of_stuck (failed : frame.clauses.increment memory = .error cause) :
    (Place.body frame after).meaning [] memory = throw (.fault cause, memory) := by
  rw [Place.meaning, resolve, runAll, pure_bind, Place.meaningBehind, failed]
  simp

/-- A round that is over leads to the test of the next one. -/
theorem meaning_of_incremented (ended : frame.clauses.increment memory = .ok (passed, next)) :
    (Place.body frame after).meaning [] memory = frame.meaning next after passed := by
  rw [Place.meaning, resolve, runAll, pure_bind, Place.meaningBehind, ended, Memory.demand_ok,
    pure_bind]

end Frame

/-- What a step comes to, compared with what was left of the run before.  Limits are not part of an
evaluation. -/
def Step.Means (meaning : Evaluation Memory) : Step → Prop
  | .go _ machine control => meaning = control.meaning machine.memory
  | .finish machine => meaning = pure machine.memory
  | .fault machine cause => cause.code = .runtime → meaning = throw (.fault cause, machine.memory)
  | .breakdown machine cause => meaning = throw (.breakdown cause, machine.memory)

namespace Place

variable (place : Place) {line : Line} {more rest : List Line} {node : Node} {memory after : Memory}

/-- A statement that succeeds is passed. -/
theorem meaning_of_run
    (resolved : resolve place.inBody (line :: more) = node :: resolve place.inBody rest)
    (passes : node.run memory = pure after) :
    (place.control (line :: more)).meaning memory = (place.control rest).meaning after := by
  rw [meaning_control, meaning_control, meaning, meaning, resolved, runAll, passes, pure_bind]

theorem meaning_of_fail {nodes : List Node} {failure : Failure}
    (resolved : resolve place.inBody (line :: more) = node :: nodes)
    (fails : node.run memory = throw (failure, after)) :
    (place.control (line :: more)).meaning memory = throw (failure, after) := by
  rw [meaning_control, meaning, resolved, runAll, fails]
  simp

variable {found : Statement}

/-- A line that is skipped in silence leaves no statement behind. -/
theorem resolve_silent (classified : classify line.text = .ok found)
    (silent : found.isSilent = true) :
    resolve place.inBody (line :: more) = resolve place.inBody more := by
  rw [resolve, classified]
  cases found with
  | blank | comment => rfl
  | _ => simp [Statement.isSilent] at silent

theorem resolve_ignored (classified : classify line.text = .ok found)
    (ignored : place.ignores found = true) :
    resolve place.inBody (line :: more) = .idle :: resolve place.inBody more := by
  rw [resolve, classified]
  cases found with
  | unrecognized text => rfl
  | loop header => exact if_pos ignored
  | _ => simp [ignores] at ignored

end Place

section Conditional

variable {limits : Limits} {machine : Machine} (place : Place) {line next : Line}
  {more following rest : List Line} {condition : Text} {value : Value} {found : Consequence}
  {after : Memory}

namespace Step.Judged

theorem consequence_assignment {name expression : Text} {index : Option Text}
    (judged : Judged limits machine line more condition value (next :: rest))
    (assignment : classify next.text = .ok (.assignment name expression index)) :
    BigStep.consequence place.inBody more = (.assign name expression index, rest) := by
  rw [BigStep.consequence, judged.behind_eq]
  simp only [assignment]

/-- What is passed depends on the line: an assignment that is not governed, or no effect at all. -/
theorem consequence_passed {passed : Statement}
    (judged : Judged limits machine line more condition value (next :: rest))
    (classified : classify next.text = .ok passed)
    (idle : value.truthy = true → passed.isAssignment = false)
    (flat : passed.isLoop = true → place.inBody = true) :
    ∃ found, BigStep.consequence place.inBody more = (found, rest) ∧
      ∀ memory, found.run value.truthy memory = pure memory := by
  rw [BigStep.consequence, judged.behind_eq]
  cases passed with
  | assignment name expression index =>
    have fails : ¬value.truthy = true := fun holds => Bool.noConfusion (idle holds)
    exact ⟨.assign name expression index, by simp only [classified], fun _ => if_neg fails⟩
  | loop header => exact ⟨.idle, by simp only [classified, if_pos (flat rfl)], fun _ => rfl⟩
  | _ => exact ⟨.idle, by simp only [classified], fun _ => rfl⟩

end Step.Judged

theorem Place.resolve_conditional
    (judged : Step.Judged limits machine line more condition value following)
    (behind : consequence place.inBody more = (found, rest)) :
    resolve place.inBody (line :: more) =
      .conditional condition found :: resolve place.inBody rest := by
  have unfolded : resolve place.inBody (line :: more) =
      .conditional condition (consequence place.inBody more).1 ::
        resolve place.inBody (consequence place.inBody more).2 := by
    rw [resolve, judged.classified]
  rw [unfolded, behind]

/-- A condition whose consequence succeeds is passed with it. -/
theorem Place.meaning_of_consequence
    (judged : Step.Judged limits machine line more condition value following)
    (behind : consequence place.inBody more = (found, rest))
    (passes : found.run value.truthy machine.memory = pure after) :
    (place.control (line :: more)).meaning machine.memory = (place.control rest).meaning after := by
  refine place.meaning_of_run (place.resolve_conditional judged behind) ?_
  rw [Node.run, Machine.memory_environment, judged.evaluated, Memory.demand_ok, pure_bind, passes]

theorem Place.meaning_of_consequence_fail {failure : Failure}
    (judged : Step.Judged limits machine line more condition value following)
    (behind : consequence place.inBody more = (found, rest))
    (fails : found.run value.truthy machine.memory = throw (failure, after)) :
    (place.control (line :: more)).meaning machine.memory = throw (failure, after) := by
  refine place.meaning_of_fail (place.resolve_conditional judged behind) ?_
  rw [Node.run, Machine.memory_environment, judged.evaluated, Memory.demand_ok, pure_bind, fails]

end Conditional

/-- A loop that is entered leads to the test of its first round. -/
theorem Place.meaning_of_entered {header : LoopHeader} {line : Line} {more : List Line}
    {block : Block} {value : Float} {memory : Memory}
    (classified : classify line.text = .ok (.loop header))
    (extracted : Block.extract line more = .ok block)
    (start : startValue header memory.environment = .ok value) :
    Place.top.meaning (line :: more) memory =
      (Machine.frameOf header line.index block value).meaning value block.after memory := by
  rw [Place.meaning, show Place.top.inBody = false from rfl,
    resolve_of_extracted classified extracted, runAll, Node.run, start, Memory.demand_ok,
    pure_bind]
  exact bind_pure _

/-- A step that goes on keeps what is left of the run, and a step that ends it without a limit ends
as the evaluation does. -/
theorem step_means {limits : Limits} {machine : Machine} {control : Control} {result : Step}
    (steps : step limits machine control = result) :
    result.Means (control.meaning machine.memory) := by
  cases Step.rule_of_step steps with
  | finish =>
    simp [Step.Means, Control.meaning, Place.meaning, Place.meaningBehind, resolve, runAll]
  | unreadable classified =>
    exact Place.meaning_of_fail _ (by rw [resolve, classified]) (by rw [Node.run])
  | @silent place line more found classified silent =>
    show (place.control (line :: more)).meaning _ = (place.control more).meaning _
    rw [Place.meaning_control, Place.meaning_control, Place.meaning, Place.meaning,
      place.resolve_silent classified silent]
  | exhausted | consequenceExhausted | roundsExhausted => simp [Step.Means, Fault.code]
  | @ignored place line more found classified ignored =>
    exact Place.meaning_of_run _ (place.resolve_ignored classified ignored) (by rw [Node.run]; rfl)
  | declared classified within declared =>
    refine Place.meaning_of_run _ (by rw [resolve, classified]) ?_
    rw [Node.run]
    exact congrArg _ (Machine.declare_memory rfl declared)
  | declarationFault classified within failed =>
    intro _
    refine Place.meaning_of_fail _ (by rw [resolve, classified]) ?_
    rw [Node.run]
    exact congrArg _ (Machine.declare_memory rfl failed)
  | declarationBreakdown classified within failed =>
    refine Place.meaning_of_fail _ (by rw [resolve, classified]) ?_
    rw [Node.run]
    exact congrArg _ (Machine.declare_memory rfl failed)
  | assigned classified within assigned =>
    refine Place.meaning_of_run _ (by rw [resolve, classified]) ?_
    rw [Node.run]
    exact congrArg _ (Machine.assign_memory assigned)
  | assignmentFault classified within failed =>
    intro _
    refine Place.meaning_of_fail _ (by rw [resolve, classified]) ?_
    rw [Node.run]
    exact congrArg _ (Machine.assign_memory failed)
  | conditionFault classified within failed =>
    intro _
    refine Place.meaning_of_fail _ (by rw [resolve, classified]) ?_
    rw [Node.run, Machine.memory_environment, failed, Machine.visit_memory]
    simp
  | @conditionLast place line more condition value judged =>
    have behind : consequence place.inBody more = (.idle, []) := by
      rw [consequence, judged.behind_eq]
    exact Place.meaning_of_consequence _ judged behind rfl
  | @consequenceUnreadable place line next more rest condition value cause judged unreadable =>
    have behind : consequence place.inBody more = (.fail (.breakdown cause), rest) := by
      rw [consequence, judged.behind_eq]
      simp only [unreadable]
    exact Place.meaning_of_consequence_fail _ judged behind rfl
  | @consequenceAssigned place line next more rest condition name expression index value changed
      judged assignment holds withinNext assigned =>
    have behind := judged.consequence_assignment place assignment
    refine Place.meaning_of_consequence _ judged behind ?_
    rw [Consequence.run, if_pos holds]
    exact congrArg _ (Machine.assign_memory assigned)
  | @consequenceFault place line next more rest condition name expression index value cause judged
      assignment holds withinNext failed =>
    intro _
    have behind := judged.consequence_assignment place assignment
    refine Place.meaning_of_consequence_fail _ judged behind ?_
    rw [Consequence.run, if_pos holds]
    exact congrArg _ (Machine.assign_memory failed)
  | @consequencePassed place line next more rest condition value found judged classified withinNext
      idle flat =>
    show _ = Control.meaning _ (place.control rest)
    rw [Machine.arrive_memory]
    rcases judged.consequence_passed _ classified idle flat with ⟨passed, behind, passes⟩
    exact Place.meaning_of_consequence _ judged behind (passes _)
  | @consequenceBlock line next more rest condition value header block judged loop withinNext
      extracted =>
    have behind : consequence Place.top.inBody more = (.idle, block.after) := by
      rw [consequence, judged.behind_eq]
      simp [loop, extracted, Place.inBody]
    refine (Place.meaning_of_consequence _ judged behind rfl).trans ?_
    rw [Machine.arrive_memory]
    rfl
  | @consequenceUnclosed line next more rest condition value header cause judged loop withinNext
      unclosed =>
    intro _
    have behind : consequence Place.top.inBody more = (.fail (.fault cause), []) := by
      rw [consequence, judged.behind_eq]
      simp [loop, unclosed, Place.inBody]
    rw [Machine.arrive_memory]
    exact Place.meaning_of_consequence_fail _ judged behind rfl
  | loopUnclosed classified within unclosed =>
    intro _
    exact Place.meaning_of_fail .top (resolve_of_unclosed classified unclosed)
      (by rw [Node.run]; rfl)
  | @loopFault line more header block cause classified within extracted failed =>
    intro _
    have start : startValue header machine.environment = .error cause :=
      Machine.startValue_of_enterLoop failed
    refine Place.meaning_of_fail .top (resolve_of_extracted classified extracted) ?_
    rw [Node.run, Machine.memory_environment, start, Machine.visit_memory]
    simp
  | @loopEntered line more header block entered frame value classified within extracted started =>
    have start : startValue header machine.environment = .ok value :=
      Machine.startValue_of_enterLoop started
    rcases Machine.enterLoop_ok started with ⟨rfl, rfl⟩
    exact Place.meaning_of_entered classified extracted start
  | testFault failed =>
    intro _
    exact Frame.meaning_of_fault failed
  | @loopLeft frame value after ended =>
    exact (Frame.meaning_of_ended ended).trans (bind_pure _).symm
  | roundFault goesOn within failed =>
    intro _
    exact Frame.meaning_of_unbound goesOn (Machine.beginRound_memory failed)
  | roundBegun goesOn within begun =>
    exact Frame.meaning_of_bound goesOn (Machine.beginRound_memory begun)
  | incrementFault failed =>
    intro _
    exact Frame.meaning_of_stuck (Machine.endRound_memory failed)
  | incremented ended => exact Frame.meaning_of_incremented (Machine.endRound_memory ended)

/-! ## Whole runs -/

/-- What a course comes to, compared with what was left of the run at its beginning. -/
def Ending.Means (meaning : Evaluation Memory) : Ending → Prop
  | .finished machine => meaning = pure machine.memory
  | .faulted machine cause => cause.code = .runtime → meaning = throw (.fault cause, machine.memory)
  | .broken machine cause => meaning = throw (.breakdown cause, machine.memory)
  | .cancelled _ => True

/-- A course that no limit ends, and nobody, ends as the evaluation of what was left does. -/
theorem Course.means {limits : Limits} {cancels : Snapshot → Bool} {machine : Machine}
    {control : Control} {shots : List Snapshot} {ending : Ending}
    (course : Course limits cancels machine control shots ending) :
    ending.Means (control.meaning machine.memory) := by
  induction course with
  | @silent machine after control reached shots ending goes rest ih =>
    have kept : control.meaning machine.memory = reached.meaning after.memory := step_means goes
    rw [kept]
    exact ih
  | @shown machine changed control reached event shots ending goes notCancelled rest ih =>
    have kept : control.meaning machine.memory = reached.meaning changed.memory := step_means goes
    rw [kept]
    exact ih
  | cancelled goes stopped => trivial
  | finished ends | faulted ends | broken ends => exact step_means ends

/-- What a run tells about the end of its script. -/
def RunResult.verdict (result : RunResult) : Verdict :=
  ⟨result.outcome.phase, result.outcome.message, result.outcome.report.map Report.message,
    result.environment⟩

theorem Fault.code_eq_runtime {cause : Fault} (step : cause.code ≠ .stepLimit)
    (loop : cause.code ≠ .loopLimit) : cause.code = .runtime := by
  cases cause <;> simp_all [code]

/-- The meaning of a script in front of its first line is its evaluation. -/
theorem meaning_started (script : Text) :
    (Control.top (numberLines 0 (Text.lines script))).meaning Machine.started.memory =
      runAll (program script) .empty := by
  show Place.top.meaning _ _ = _
  rw [Place.meaning]
  exact bind_pure _

/-- A run of an accepted script that is not cancelled and does not exceed a limit tells what the
evaluation of its tree tells: the status, the message of the error and the variables. -/
theorem Engine.run_evaluates {engine ended : Engine} {script : Text} {speed : Option Value}
    {cancels : Snapshot → Bool} {result : RunResult}
    (returned : engine.run script speed cancels = (ended, .ok result))
    (accepted : Dialect.violation? script = none)
    (uncancelled : result.outcome.phase ≠ .cancelled)
    (unlimited : ∀ report, result.outcome.report = some report →
      report.code ≠ .stepLimit ∧ report.code ≠ .loopLimit) :
    (evaluate script).map verdict = .some result.verdict := by
  rcases run_cases returned with ⟨rule, violated, _⟩ | ⟨_, shots, ending, course, left⟩
  · simp [accepted] at violated
  · rcases left with ⟨_, _, answered⟩
    rcases Ending.of_answer answered.symm with ⟨ends, all, _⟩
    have means := course.means
    rw [meaning_started] at means
    unfold RunResult.verdict
    cases ending with
    | finished machine =>
      have evaluated : evaluate script = .some (.ok machine.memory) := congrArg ExceptT.run means
      have outcome : result.outcome = .completed := (Except.ok.inj ends).symm
      rw [evaluated, outcome, RunResult.environment_of_conclusion all rfl]
      rfl
    | faulted machine cause =>
      have outcome : result.outcome = Ending.failure (Text.lines script) machine cause :=
        (Except.ok.inj ends).symm
      rw [outcome] at unlimited
      rcases unlimited _ rfl with ⟨step, loop⟩
      have evaluated : evaluate script = .some (.error (.fault cause, machine.memory)) :=
        congrArg ExceptT.run (means (Fault.code_eq_runtime step loop))
      rw [evaluated, outcome, RunResult.environment_of_conclusion all rfl]
      rfl
    | broken => simp [Ending.outcome] at ends
    | cancelled =>
      have outcome : result.outcome = .cancelled := (Except.ok.inj ends).symm
      exact absurd (congrArg Outcome.phase outcome) uncancelled

/-- A constant that another line declares again: the run and the evaluation fail with its value. -/
theorem Engine.run_evaluates_of_constant :
    ∃ ended result,
      new.run "const a = []\nlet a = []".toList none (fun _ => false) = (ended, .ok result) ∧
      Dialect.violation? "const a = []\nlet a = []".toList = none ∧
      result.outcome.phase ≠ .cancelled ∧
      (∀ report, result.outcome.report = some report →
        report.code ≠ .stepLimit ∧ report.code ≠ .loopLimit) ∧
      (evaluate "const a = []\nlet a = []".toList).map verdict = .some result.verdict := by
  let declared : Machine :=
    { (Machine.started.visit false ⟨0, "const a = []".toList⟩).written ['a'] (.array []) with
      constants := [(['a'], 0)] }
  have declares : step .standard .started
      (.top (numberLines 0 (Text.lines "const a = []\nlet a = []".toList))) =
      .go (some .declare) declared (.top [⟨1, "let a = []".toList⟩]) := by cbv
  have fails : step .standard (declared.showing .declare).1 (.top [⟨1, "let a = []".toList⟩]) =
      .fault ((declared.showing .declare).1.visit false ⟨1, "let a = []".toList⟩)
        (.constReassigned ['a']) := by cbv
  have course : Course .standard (fun _ => false) .started
      (.top (numberLines 0 (Text.lines "const a = []\nlet a = []".toList)))
      [(declared.showing .declare).2] (.faulted _ (.constReassigned ['a'])) :=
    .shown declares rfl (.faulted fails)
  have accepted : Dialect.violation? "const a = []\nlet a = []".toList = none := by cbv
  have idle : new.isRunning = false := rfl
  rcases run_ok_of_course idle accepted course rfl with ⟨ended, returned⟩
  have uncancelled : ∀ lines machine,
      (Ending.failure lines machine (.constReassigned ['a'])).phase ≠ .cancelled := by
    intro lines machine same
    cases same
  have unlimited : ∀ lines machine report,
      (Ending.failure lines machine (.constReassigned ['a'])).report = some report →
        report.code ≠ .stepLimit ∧ report.code ≠ .loopLimit := by
    intro lines machine report found
    rw [← Option.some.inj found]
    simp [Report.ofFault, Fault.code]
  exact ⟨ended, _, returned, accepted, uncancelled _ _, unlimited _ _,
    run_evaluates returned accepted (uncancelled _ _) (unlimited _ _)⟩

end StepScript

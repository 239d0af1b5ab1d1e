import Mathlib
import StepScript.Run.Step

/-!
# Rules of a step

`step` decides by nested case distinctions where a run goes next.  Here each way through them is a
rule of its own, with all that has been checked on that way.  A property of every step is then one
case analysis over the rules, because `rule_step` leaves no step out, and a step at another control
point is found by its rule (`step_of_rule`).
-/

namespace StepScript

/-- Lines that say nothing are passed without a visit. -/
def Statement.isSilent : Statement → Bool
  | .blank | .comment _ => true
  | _ => false

def Statement.isLoop : Statement → Bool
  | .loop _ => true
  | _ => false

def Statement.isAssignment : Statement → Bool
  | .assignment _ _ _ => true
  | _ => false

def Event.endsRun : Event → Bool
  | .failed | .completed => true
  | _ => false

/-- Where a statement stands: outside of loops, or in a round of a loop. -/
inductive Place where
  | top
  | body (frame : Frame) (after : List Line)

namespace Place

/-- Whether the place lies in a round of a loop. -/
def inBody : Place → Bool
  | .top => false
  | .body _ _ => true

/-- The control point in front of lines at a place. -/
def control : Place → List Line → Control
  | .top, rest => .top rest
  | .body frame after, rest => .body frame rest after

/-- Statements without an effect at a place: unrecognized lines, and loops within a loop. -/
def ignores (place : Place) : Statement → Bool
  | .unrecognized _ => true
  | .loop _ => place.inBody
  | _ => false

end Place

namespace Machine

/-- The machine behind a condition.  The line of the consequence is visited only if the condition
holds. -/
def arrive (holds : Bool) (place : Place) (line : Line) (machine : Machine) : Machine :=
  if holds then machine.visit place.inBody line else machine

def countRound (frame : Frame) (machine : Machine) : Machine × Frame :=
  let counted := { frame with iterations := frame.iterations + 1 }
  ({ machine with frame := some counted }, counted)

end Machine

namespace Step

/-- Whether one more visit exceeds the limit. -/
def Exhausted (limits : Limits) (machine : Machine) : Prop :=
  limits.maxSteps < ((machine.steps + 1 : Nat) : Int)

/-- The line holds a condition that is visited and has a value.  `behind` are the lines behind it,
from its consequence on. -/
structure Judged (limits : Limits) (machine : Machine) (line : Line) (more : List Line)
    (condition : Text) (value : Value) (behind : List Line) : Prop where
  classified : classify line.text = .ok (.conditional condition)
  within : ¬Exhausted limits machine
  evaluated : evaluateText condition machine.environment = .ok value
  behind_eq : (more.dropWhile fun line => isBraceOnly line.text) = behind

/-- The rules of a step: from a machine at a control point to the result of the step. -/
inductive Rule (limits : Limits) (machine : Machine) : Control → Step → Prop where
  | finish : Rule limits machine (.top []) (.finish machine)
  | unreadable {place : Place} {line : Line} {more : List Line} {cause : Breakdown}
      (classified : classify line.text = .error cause) :
      Rule limits machine (place.control (line :: more)) (.breakdown machine cause)
  | silent {place : Place} {line : Line} {more : List Line} {found : Statement}
      (classified : classify line.text = .ok found) (silent : found.isSilent = true) :
      Rule limits machine (place.control (line :: more)) (.go none machine (place.control more))
  | exhausted {place : Place} {line : Line} {more : List Line} {found : Statement}
      (classified : classify line.text = .ok found) (spoken : found.isSilent = false)
      (exceeded : Exhausted limits machine) :
      Rule limits machine (place.control (line :: more))
        (.fault (machine.visit place.inBody line) (.stepLimit limits.maxSteps))
  | ignored {place : Place} {line : Line} {more : List Line} {found : Statement}
      (classified : classify line.text = .ok found) (ignored : place.ignores found = true)
      (within : ¬Exhausted limits machine) :
      Rule limits machine (place.control (line :: more))
        (.go none (machine.visit place.inBody line) (place.control more))
  | declared {place : Place} {line : Line} {more : List Line} {name expression : Text}
      {keyword : Keyword} {changed : Machine}
      (classified : classify line.text = .ok (.declaration name expression keyword))
      (within : ¬Exhausted limits machine)
      (declared : (machine.visit place.inBody line).declare name expression keyword = .ok changed) :
      Rule limits machine (place.control (line :: more))
        (.go (some .declare) changed (place.control more))
  | declarationFault {place : Place} {line : Line} {more : List Line} {name expression : Text}
      {keyword : Keyword} {cause : Fault}
      (classified : classify line.text = .ok (.declaration name expression keyword))
      (within : ¬Exhausted limits machine)
      (failed : (machine.visit place.inBody line).declare name expression keyword =
        .error (.fault cause)) :
      Rule limits machine (place.control (line :: more))
        (.fault (machine.visit place.inBody line) cause)
  | declarationBreakdown {place : Place} {line : Line} {more : List Line} {name expression : Text}
      {keyword : Keyword} {cause : Breakdown}
      (classified : classify line.text = .ok (.declaration name expression keyword))
      (within : ¬Exhausted limits machine)
      (failed : (machine.visit place.inBody line).declare name expression keyword =
        .error (.breakdown cause)) :
      Rule limits machine (place.control (line :: more))
        (.breakdown (machine.visit place.inBody line) cause)
  | assigned {place : Place} {line : Line} {more : List Line} {name expression : Text}
      {index : Option Text} {changed : Machine}
      (classified : classify line.text = .ok (.assignment name expression index))
      (within : ¬Exhausted limits machine)
      (assigned : (machine.visit place.inBody line).assign name expression index = .ok changed) :
      Rule limits machine (place.control (line :: more))
        (.go (some .assign) changed (place.control more))
  | assignmentFault {place : Place} {line : Line} {more : List Line} {name expression : Text}
      {index : Option Text} {cause : Fault}
      (classified : classify line.text = .ok (.assignment name expression index))
      (within : ¬Exhausted limits machine)
      (failed : (machine.visit place.inBody line).assign name expression index = .error cause) :
      Rule limits machine (place.control (line :: more))
        (.fault (machine.visit place.inBody line) cause)
  | conditionFault {place : Place} {line : Line} {more : List Line} {condition : Text}
      {cause : Fault}
      (classified : classify line.text = .ok (.conditional condition))
      (within : ¬Exhausted limits machine)
      (failed : evaluateText condition machine.environment = .error cause) :
      Rule limits machine (place.control (line :: more))
        (.fault (machine.visit place.inBody line) cause)
  | conditionLast {place : Place} {line : Line} {more : List Line} {condition : Text}
      {value : Value}
      (judged : Judged limits machine line more condition value []) :
      Rule limits machine (place.control (line :: more))
        (.go none (machine.visit place.inBody line) (place.control []))
  | consequenceUnreadable {place : Place} {line next : Line} {more rest : List Line}
      {condition : Text} {value : Value} {cause : Breakdown}
      (judged : Judged limits machine line more condition value (next :: rest))
      (unreadable : classify next.text = .error cause) :
      Rule limits machine (place.control (line :: more))
        (.breakdown (machine.visit place.inBody line) cause)
  | consequenceExhausted {place : Place} {line next : Line} {more rest : List Line}
      {condition : Text} {value : Value} {found : Statement}
      (judged : Judged limits machine line more condition value (next :: rest))
      (consequence : classify next.text = .ok found)
      (holds : value.truthy = true)
      (exceeded : Exhausted limits (machine.visit place.inBody line)) :
      Rule limits machine (place.control (line :: more))
        (.fault ((machine.visit place.inBody line).visit place.inBody next)
          (.stepLimit limits.maxSteps))
  | consequenceAssigned {place : Place} {line next : Line} {more rest : List Line}
      {condition name expression : Text} {index : Option Text} {value : Value}
      {changed : Machine}
      (judged : Judged limits machine line more condition value (next :: rest))
      (consequence : classify next.text = .ok (.assignment name expression index))
      (holds : value.truthy = true)
      (withinNext : ¬Exhausted limits (machine.visit place.inBody line))
      (assigned : ((machine.visit place.inBody line).visit place.inBody next).assign name expression
        index = .ok changed) :
      Rule limits machine (place.control (line :: more))
        (.go (some .condition) changed (place.control rest))
  | consequenceFault {place : Place} {line next : Line} {more rest : List Line}
      {condition name expression : Text} {index : Option Text} {value : Value} {cause : Fault}
      (judged : Judged limits machine line more condition value (next :: rest))
      (consequence : classify next.text = .ok (.assignment name expression index))
      (holds : value.truthy = true)
      (withinNext : ¬Exhausted limits (machine.visit place.inBody line))
      (failed : ((machine.visit place.inBody line).visit place.inBody next).assign name expression
        index = .error cause) :
      Rule limits machine (place.control (line :: more))
        (.fault ((machine.visit place.inBody line).visit place.inBody next) cause)
  | consequencePassed {place : Place} {line next : Line} {more rest : List Line}
      {condition : Text} {value : Value} {found : Statement}
      (judged : Judged limits machine line more condition value (next :: rest))
      (consequence : classify next.text = .ok found)
      (withinNext : value.truthy = true → ¬Exhausted limits (machine.visit place.inBody line))
      (idle : value.truthy = true → found.isAssignment = false)
      (flat : found.isLoop = true → place.inBody = true) :
      Rule limits machine (place.control (line :: more))
        (.go none ((machine.visit place.inBody line).arrive value.truthy place next)
          (place.control rest))
  | consequenceBlock {line next : Line} {more rest : List Line}
      {condition : Text} {value : Value} {header : LoopHeader} {block : Block}
      (judged : Judged limits machine line more condition value (next :: rest))
      (consequence : classify next.text = .ok (.loop header))
      (withinNext : value.truthy = true → ¬Exhausted limits (machine.visit false line))
      (extracted : Block.extract next rest = .ok block) :
      Rule limits machine (.top (line :: more))
        (.go none ((machine.visit false line).arrive value.truthy .top next) (.top block.after))
  | consequenceUnclosed {line next : Line} {more rest : List Line}
      {condition : Text} {value : Value} {header : LoopHeader} {cause : Fault}
      (judged : Judged limits machine line more condition value (next :: rest))
      (consequence : classify next.text = .ok (.loop header))
      (withinNext : value.truthy = true → ¬Exhausted limits (machine.visit false line))
      (unclosed : Block.extract next rest = .error cause) :
      Rule limits machine (.top (line :: more))
        (.fault ((machine.visit false line).arrive value.truthy .top next) cause)
  | loopUnclosed {line : Line} {more : List Line} {header : LoopHeader} {cause : Fault}
      (classified : classify line.text = .ok (.loop header))
      (within : ¬Exhausted limits machine)
      (unclosed : Block.extract line more = .error cause) :
      Rule limits machine (.top (line :: more)) (.fault (machine.visit false line) cause)
  | loopFault {line : Line} {more : List Line} {header : LoopHeader} {block : Block}
      {cause : Fault}
      (classified : classify line.text = .ok (.loop header))
      (within : ¬Exhausted limits machine)
      (extracted : Block.extract line more = .ok block)
      (failed : (machine.visit false line).enterLoop header line.index block = .error cause) :
      Rule limits machine (.top (line :: more)) (.fault (machine.visit false line) cause)
  | loopEntered {line : Line} {more : List Line} {header : LoopHeader} {block : Block}
      {entered : Machine} {frame : Frame} {value : Float}
      (classified : classify line.text = .ok (.loop header))
      (within : ¬Exhausted limits machine)
      (extracted : Block.extract line more = .ok block)
      (started : (machine.visit false line).enterLoop header line.index block =
        .ok (entered, frame, value)) :
      Rule limits machine (.top (line :: more)) (.go none entered (.test frame value block.after))
  | testFault {frame : Frame} {value : Float} {after : List Line} {cause : Fault}
      (failed : Machine.goesOn frame value machine.environment = .error cause) :
      Rule limits machine (.test frame value after) (.fault machine cause)
  | loopLeft {frame : Frame} {value : Float} {after : List Line}
      (ended : Machine.goesOn frame value machine.environment = .ok false) :
      Rule limits machine (.test frame value after) (.go none machine.leaveLoop (.top after))
  | roundsExhausted {frame : Frame} {value : Float} {after : List Line}
      (goesOn : Machine.goesOn frame value machine.environment = .ok true)
      (exceeded : limits.maxLoop < ((frame.iterations + 1 : Nat) : Int)) :
      Rule limits machine (.test frame value after)
        (.fault (machine.countRound frame).1 (.loopLimit limits.maxLoop))
  | roundFault {frame : Frame} {value : Float} {after : List Line} {cause : Fault}
      (goesOn : Machine.goesOn frame value machine.environment = .ok true)
      (within : ¬limits.maxLoop < ((frame.iterations + 1 : Nat) : Int))
      (failed : (machine.countRound frame).1.beginRound (machine.countRound frame).2 value =
        .error cause) :
      Rule limits machine (.test frame value after) (.fault (machine.countRound frame).1 cause)
  | roundBegun {frame : Frame} {value : Float} {after : List Line} {bound : Machine}
      (goesOn : Machine.goesOn frame value machine.environment = .ok true)
      (within : ¬limits.maxLoop < ((frame.iterations + 1 : Nat) : Int))
      (begun : (machine.countRound frame).1.beginRound (machine.countRound frame).2 value =
        .ok bound) :
      Rule limits machine (.test frame value after)
        (.go (some .bind) bound (.body (machine.countRound frame).2 frame.body after))
  | incrementFault {frame : Frame} {after : List Line} {cause : Fault}
      (failed : machine.endRound frame = .error cause) :
      Rule limits machine (.body frame [] after) (.fault machine cause)
  | incremented {frame : Frame} {after : List Line} {changed : Machine} {value : Float}
      (ended : machine.endRound frame = .ok (changed, value)) :
      Rule limits machine (.body frame [] after)
        (.go (some .increment) changed (.test frame value after))

section Visiting

variable {limits : Limits} {inBody : Bool} {line : Line} {machine : Machine}
  {next : Machine → Step}

theorem visiting_of_exhausted (exceeded : Exhausted limits machine) :
    visiting limits inBody line machine next =
      .fault (machine.visit inBody line) (.stepLimit limits.maxSteps) :=
  if_pos exceeded

theorem visiting_of_within (within : ¬Exhausted limits machine) :
    visiting limits inBody line machine next = next (machine.visit inBody line) :=
  if_neg within

end Visiting

variable {limits : Limits} {machine : Machine}

theorem rule_passConsequence {place : Place} {line next : Line} {more rest : List Line}
    {condition : Text} {value : Value} {found : Statement}
    (judged : Judged limits machine line more condition value (next :: rest))
    (consequence : classify next.text = .ok found)
    (withinNext : value.truthy = true → ¬Exhausted limits (machine.visit place.inBody line))
    (idle : value.truthy = true → found.isAssignment = false) :
    Rule limits machine (place.control (line :: more))
      (passConsequence place.inBody place.control
        ((machine.visit place.inBody line).arrive value.truthy place next) found next rest) := by
  by_cases block : found.isLoop = true ∧ place.inBody = false
  · rcases block with ⟨loop, outside⟩
    cases place with
    | body frame after => simp [Place.inBody] at outside
    | top =>
      cases found with
      | loop header =>
        simp only [passConsequence, Place.inBody]
        split
        next cause unclosed => exact .consequenceUnclosed judged consequence withinNext unclosed
        next block extracted => exact .consequenceBlock judged consequence withinNext extracted
      | _ => simp [Statement.isLoop] at loop
  · have flat : found.isLoop = true → place.inBody = true := by
      simpa using block
    have passed := Rule.consequencePassed judged consequence withinNext idle flat
    unfold passConsequence
    split
    next header outside => exact absurd (flat rfl) (by simp [outside])
    next => exact passed

theorem rule_conditional {place : Place} {line : Line} {more : List Line} {condition : Text}
    (classified : classify line.text = .ok (.conditional condition))
    (within : ¬Exhausted limits machine) :
    Rule limits machine (place.control (line :: more))
      (conditional limits place.inBody place.control (machine.visit place.inBody line) condition
        more) := by
  unfold conditional
  split
  next cause failed => exact .conditionFault classified within failed
  next value evaluated =>
    split
    next last => exact .conditionLast ⟨classified, within, evaluated, last⟩
    next next rest behind =>
      have judged : Judged limits machine line more condition value (next :: rest) :=
        ⟨classified, within, evaluated, behind⟩
      split
      next cause unreadable => exact .consequenceUnreadable judged unreadable
      next found consequence =>
        have passed := @rule_passConsequence _ _ place _ _ _ _ _ _ _ judged consequence
        by_cases holds : value.truthy = true
        · rw [Machine.arrive, if_pos holds] at passed
          rw [if_pos holds]
          by_cases exceeded : Exhausted limits (machine.visit place.inBody line)
          · rw [visiting_of_exhausted exceeded]
            exact .consequenceExhausted judged consequence holds exceeded
          · rw [visiting_of_within exceeded]
            cases found with
            | assignment name expression index =>
              dsimp only
              cases assigned : ((machine.visit place.inBody line).visit place.inBody next).assign
                  name expression index with
              | ok changed => exact .consequenceAssigned judged consequence holds exceeded assigned
              | error cause => exact .consequenceFault judged consequence holds exceeded assigned
            | _ => exact passed (fun _ => exceeded) (fun _ => rfl)
        · rw [Machine.arrive, if_neg holds] at passed
          rw [if_neg holds]
          exact passed (fun truthy => absurd truthy holds) (fun truthy => absurd truthy holds)

theorem rule_startLoop {line : Line} {more : List Line} {header : LoopHeader}
    (classified : classify line.text = .ok (.loop header)) (within : ¬Exhausted limits machine) :
    Rule limits machine (.top (line :: more))
      (startLoop header (machine.visit false line) line more) := by
  unfold startLoop
  split
  next cause unclosed => exact .loopUnclosed classified within unclosed
  next block extracted =>
    split
    next cause failed => exact .loopFault classified within extracted failed
    next entered frame value started => exact .loopEntered classified within extracted started

theorem rule_statement {place : Place} {line : Line} {more : List Line} :
    Rule limits machine (place.control (line :: more))
      (statement limits place.inBody place.control machine line more) := by
  cases classified : classify line.text with
  | error cause =>
    rw [statement, classified]
    exact .unreadable classified
  | ok found =>
    by_cases exceeded : Exhausted limits machine
    · have exhausted : found.isSilent = false → Rule limits machine (place.control (line :: more))
          (.fault (machine.visit place.inBody line) (.stepLimit limits.maxSteps)) :=
        fun spoken => .exhausted classified spoken exceeded
      cases found with
      | blank | comment text =>
        rw [statement, classified]
        exact .silent classified rfl
      | _ => simpa only [statement, classified, visiting_of_exhausted exceeded] using exhausted rfl
    · have ignored : place.ignores found = true →
          Rule limits machine (place.control (line :: more))
            (.go none (machine.visit place.inBody line) (place.control more)) :=
        fun ignored => .ignored classified ignored exceeded
      cases found with
      | blank | comment text =>
        rw [statement, classified]
        exact .silent classified rfl
      | declaration name expression keyword =>
        simp only [statement, classified, visiting_of_within exceeded]
        cases declared : (machine.visit place.inBody line).declare name expression keyword with
        | ok changed => exact .declared classified exceeded declared
        | error failure =>
          cases failure with
          | fault cause => exact .declarationFault classified exceeded declared
          | breakdown cause => exact .declarationBreakdown classified exceeded declared
      | assignment name expression index =>
        simp only [statement, classified, visiting_of_within exceeded]
        cases assigned : (machine.visit place.inBody line).assign name expression index with
        | ok changed => exact .assigned classified exceeded assigned
        | error cause => exact .assignmentFault classified exceeded assigned
      | conditional condition =>
        simp only [statement, classified, visiting_of_within exceeded]
        exact rule_conditional classified exceeded
      | loop header =>
        simp only [statement, classified, visiting_of_within exceeded]
        cases place with
        | top => exact rule_startLoop classified exceeded
        | body frame after => exact ignored rfl
      | unrecognized text =>
        simp only [statement, classified, visiting_of_within exceeded]
        exact ignored rfl

theorem rule_step (limits : Limits) (machine : Machine) (control : Control) :
    Rule limits machine control (step limits machine control) := by
  match control with
  | .top [] => exact .finish
  | .top (line :: more) => exact @rule_statement limits machine .top line more
  | .body frame [] after =>
    rw [step, endRound]
    split
    next cause failed => exact .incrementFault failed
    next changed value ended => exact .incremented ended
  | .body frame (line :: more) after =>
    exact @rule_statement limits machine (.body frame after) line more
  | .test frame value after =>
    rw [step, test]
    split
    next cause failed => exact .testFault failed
    next ended => exact .loopLeft ended
    next goesOn =>
      dsimp only
      split
      next exceeded => exact .roundsExhausted goesOn exceeded
      next within =>
        cases begun :
            (machine.countRound frame).1.beginRound (machine.countRound frame).2 value with
        | ok bound =>
          rw [Machine.countRound] at begun
          rw [begun]
          exact .roundBegun goesOn within begun
        | error cause =>
          rw [Machine.countRound] at begun
          rw [begun]
          exact .roundFault goesOn within begun

theorem rule_of_step {control : Control} {result : Step}
    (steps : step limits machine control = result) : Rule limits machine control result :=
  steps ▸ rule_step limits machine control

/-! ## Steps of a rule -/

theorem step_control (limits : Limits) (machine : Machine) (place : Place) (line : Line)
    (more : List Line) : step limits machine (place.control (line :: more)) =
      statement limits place.inBody place.control machine line more := by
  cases place <;> rfl

theorem Judged.statement_eq {place : Place} {line : Line} {more behind : List Line}
    {condition : Text} {value : Value}
    (judged : Judged limits machine line more condition value behind) :
    statement limits place.inBody place.control machine line more =
      match behind with
      | [] => .go none (machine.visit place.inBody line) (place.control [])
      | next :: rest =>
        match classify next.text with
        | .error cause => .breakdown (machine.visit place.inBody line) cause
        | .ok found =>
          if value.truthy then
            visiting limits place.inBody next (machine.visit place.inBody line) fun visited =>
              match found with
              | .assignment name expression index =>
                change .condition visited ((visited.assign name expression index).mapError .fault)
                  (place.control rest)
              | _ => passConsequence place.inBody place.control visited found next rest
          else passConsequence place.inBody place.control (machine.visit place.inBody line) found
            next rest := by
  have evaluated : evaluateText condition (machine.visit place.inBody line).environment =
    .ok value := judged.evaluated
  simp only [statement, judged.classified, visiting_of_within judged.within, conditional, evaluated,
    judged.behind_eq]
  cases behind <;> rfl

/-- Behind a condition a consequence that is not run is passed. -/
theorem Judged.statement_of_idle {place : Place} {line next : Line} {more rest : List Line}
    {condition : Text} {value : Value} {found : Statement}
    (judged : Judged limits machine line more condition value (next :: rest))
    (consequence : classify next.text = .ok found)
    (withinNext : value.truthy = true → ¬Exhausted limits (machine.visit place.inBody line))
    (idle : value.truthy = true → found.isAssignment = false) :
    statement limits place.inBody place.control machine line more =
      passConsequence place.inBody place.control
        ((machine.visit place.inBody line).arrive value.truthy place next) found next rest := by
  simp only [judged.statement_eq, consequence]
  by_cases holds : value.truthy = true
  · rw [if_pos holds, visiting_of_within (withinNext holds), Machine.arrive, if_pos holds]
    cases found <;> simp_all [Statement.isAssignment]
  · rw [if_neg holds, Machine.arrive, if_neg holds]

theorem step_of_rule {control : Control} {result : Step}
    (rule : Rule limits machine control result) : step limits machine control = result := by
  cases rule with
  | finish => rfl
  | unreadable classified => simp only [step_control, statement, classified]
  | @silent place line more found classified silent =>
    cases found <;> simp_all [step_control, statement, Statement.isSilent]
  | @exhausted place line more found classified spoken exceeded =>
    cases found <;>
      simp_all [step_control, statement, Statement.isSilent, visiting_of_exhausted exceeded]
  | @ignored place line more found classified ignored within =>
    cases place <;> cases found <;>
      simp_all [step_control, statement, Place.ignores, Place.inBody, visiting_of_within within]
  | declared classified within declared =>
    simp only [step_control, statement, classified, visiting_of_within within, declared, change]
  | declarationFault classified within failed | declarationBreakdown classified within failed =>
    simp only [step_control, statement, classified, visiting_of_within within, failed, change,
      ofFailure]
  | assigned classified within assigned =>
    simp only [step_control, statement, classified, visiting_of_within within, assigned, change,
      Except.mapError]
  | assignmentFault classified within failed =>
    simp only [step_control, statement, classified, visiting_of_within within, failed, change,
      Except.mapError, ofFailure]
  | @conditionFault place line more condition cause classified within failed =>
    have failed : evaluateText condition (machine.visit place.inBody line).environment =
      .error cause := failed
    simp only [step_control, statement, classified, visiting_of_within within, conditional, failed]
  | conditionLast judged => rw [step_control, judged.statement_eq]
  | consequenceUnreadable judged unreadable =>
    simp only [step_control, judged.statement_eq, unreadable]
  | consequenceExhausted judged consequence holds exceeded =>
    simp only [step_control, judged.statement_eq, consequence, holds, if_true,
      visiting_of_exhausted exceeded]
  | consequenceAssigned judged consequence holds withinNext assigned =>
    simp only [step_control, judged.statement_eq, consequence, holds, if_true,
      visiting_of_within withinNext, assigned, change, Except.mapError]
  | consequenceFault judged consequence holds withinNext failed =>
    simp only [step_control, judged.statement_eq, consequence, holds, if_true,
      visiting_of_within withinNext, failed, change, Except.mapError, ofFailure]
  | @consequencePassed place line next more rest condition value found judged consequence withinNext
      idle flat =>
    rw [step_control, judged.statement_of_idle consequence withinNext idle]
    unfold passConsequence
    split
    next header outside => exact absurd (flat rfl) (by simp [outside])
    next => rfl
  | consequenceBlock judged consequence withinNext extracted =>
    rw [show Control.top _ = Place.control .top _ from rfl, step_control,
      judged.statement_of_idle consequence withinNext fun _ => rfl]
    simp only [passConsequence, Place.inBody, extracted]
    rfl
  | consequenceUnclosed judged consequence withinNext unclosed =>
    rw [show Control.top _ = Place.control .top _ from rfl, step_control,
      judged.statement_of_idle consequence withinNext fun _ => rfl]
    simp only [passConsequence, Place.inBody, unclosed]
  | loopUnclosed classified within unclosed =>
    simp only [step, statement, classified, visiting_of_within within, startLoop, unclosed]
  | loopFault classified within extracted failed =>
    simp only [step, statement, classified, visiting_of_within within, startLoop, extracted, failed]
  | loopEntered classified within extracted started =>
    simp only [step, statement, classified, visiting_of_within within, startLoop, extracted,
      started]
  | testFault failed => simp only [step, test, failed]
  | loopLeft ended => simp only [step, test, ended]
  | roundsExhausted goesOn exceeded =>
    simp only [step, test, goesOn, if_pos exceeded]
    rfl
  | roundFault goesOn within failed =>
    simp only [Machine.countRound] at failed
    simp only [step, test, goesOn, if_neg within, failed, change, Except.mapError, ofFailure]
    rfl
  | roundBegun goesOn within begun =>
    simp only [Machine.countRound] at begun
    simp only [step, test, goesOn, if_neg within, begun, change, Except.mapError]
    rfl
  | incrementFault failed => simp only [step, endRound, failed]
  | incremented ended => simp only [step, endRound, ended]

/-- A script is finished only where no line is left. -/
theorem eq_of_finish {control : Control} {ended : Machine}
    (ends : step limits machine control = .finish ended) : control = .top [] ∧ ended = machine := by
  cases rule_of_step ends with
  | finish => exact ⟨rfl, rfl⟩

/-- The events that steps carry are changes. -/
theorem endsRun_of_go {control reached : Control} {changed : Machine} {event : Event}
    (goes : step limits machine control = .go (some event) changed reached) :
    event.endsRun = false := by
  cases rule_of_step goes <;> rfl

end Step

end StepScript

import StepScript.Run.Machine
import StepScript.Statement.Classify

/-!
# Steps of a run

A run stands at a control point: in front of some lines, or in a loop.  A step runs one statement,
or one part of a loop's own work, and tells where the run stands then.  Steps that change a variable
carry an event; at these a run can be suspended.  Every step comes closer to the end of the run,
which `Step.decreases` states.
-/

namespace StepScript

/-- The changes of a variable, and the two ways in which a run ends. -/
inductive Event where
  | declare
  | assign
  | condition
  | bind
  | increment
  | failed
  | completed
  deriving DecidableEq, Repr

def Event.word : Event → String
  | .declare => "declare"
  | .assign => "assign"
  | .condition => "condition"
  | .bind => "bind"
  | .increment => "increment"
  | .failed => "failed"
  | .completed => "completed"

/-- Where a run stands: in front of lines that lie in no loop, in front of the test of a loop, or
inside a round.  `after` are the lines behind the block of the loop. -/
inductive Control where
  | top (rest : List Line)
  | test (frame : Frame) (value : Float) (after : List Line)
  | body (frame : Frame) (rest after : List Line)

/-- How much is left to do: first the lines outside of loops, then the rounds of the loop, then the
statements of the round. -/
def Control.measure (limits : Limits) : Control → Nat × Nat × Nat
  | .top rest => (2 * rest.length + 1, 0, 0)
  | .test frame _ after => (2 * after.length + 2, (limits.maxLoop - frame.iterations).toNat, 0)
  | .body frame rest after =>
    (2 * after.length + 2, (limits.maxLoop - frame.iterations).toNat, rest.length + 1)

/-- What a step comes to. -/
inductive Step where
  | go (event : Option Event) (machine : Machine) (control : Control)
  | finish (machine : Machine)
  | fault (machine : Machine) (cause : Fault)
  | breakdown (machine : Machine) (cause : Breakdown)

namespace Step

/-- A step that fails. -/
def ofFailure (machine : Machine) : Failure → Step
  | .fault cause => .fault machine cause
  | .breakdown cause => .breakdown machine cause

/-- A step that changes a variable, if the change succeeds. -/
def change (event : Event) (machine : Machine) (changed : Except Failure Machine)
    (control : Control) : Step :=
  match changed with
  | .ok changed => .go (some event) changed control
  | .error failure => .ofFailure machine failure

/-- Visits a line, unless that exceeds the limit. -/
def visiting (limits : Limits) (inBody : Bool) (line : Line) (machine : Machine)
    (next : Machine → Step) : Step :=
  let visited := machine.visit inBody line
  if limits.maxSteps < visited.steps then .fault visited (.stepLimit limits.maxSteps)
  else next visited

/-- Passes the line behind a condition.  A loop outside of loops is passed with its whole block. -/
def passConsequence (inBody : Bool) (resume : List Line → Control) (machine : Machine)
    (consequence : Statement) (line : Line) (rest : List Line) : Step :=
  match consequence, inBody with
  | .loop _, false =>
    match Block.extract line rest with
    | .error cause => .fault machine cause
    | .ok block => .go none machine (resume block.after)
  | _, _ => .go none machine (resume rest)

/-- A condition.  The statement behind it runs only if the condition holds and the statement is an
assignment, and it is passed in any case. -/
def conditional (limits : Limits) (inBody : Bool) (resume : List Line → Control) (machine : Machine)
    (condition : Text) (more : List Line) : Step :=
  match evaluateText condition machine.environment with
  | .error cause => .fault machine cause
  | .ok value =>
    match more.dropWhile fun line => isBraceOnly line.text with
    | [] => .go none machine (resume [])
    | line :: rest =>
      match classify line.text with
      | .error cause => .breakdown machine cause
      | .ok consequence =>
        if value.truthy then
          visiting limits inBody line machine fun visited =>
            match consequence with
            | .assignment name expression index =>
              change .condition visited ((visited.assign name expression index).mapError .fault)
                (resume rest)
            | _ => passConsequence inBody resume visited consequence line rest
        else passConsequence inBody resume machine consequence line rest

def startLoop (header : LoopHeader) (machine : Machine) (line : Line) (more : List Line) : Step :=
  match Block.extract line more with
  | .error cause => .fault machine cause
  | .ok block =>
    match machine.enterLoop header line.index block with
    | .error cause => .fault machine cause
    | .ok (entered, frame, value) => .go none entered (.test frame value block.after)

/-- The statement on a line.  `resume` makes the control point in front of the lines behind it. -/
def statement (limits : Limits) (inBody : Bool) (resume : List Line → Control) (machine : Machine)
    (line : Line) (more : List Line) : Step :=
  match classify line.text with
  | .error cause => .breakdown machine cause
  | .ok .blank | .ok (.comment _) => .go none machine (resume more)
  | .ok found =>
    visiting limits inBody line machine fun visited =>
      match found, inBody with
      | .declaration name expression keyword, _ =>
        change .declare visited (visited.declare name expression keyword) (resume more)
      | .assignment name expression index, _ =>
        change .assign visited ((visited.assign name expression index).mapError .fault)
          (resume more)
      | .conditional condition, _ => conditional limits inBody resume visited condition more
      | .loop header, false => startLoop header visited line more
      | _, _ => .go none visited (resume more)

/-- The test of a loop, and the start of its next round. -/
def test (limits : Limits) (machine : Machine) (frame : Frame) (value : Float)
    (after : List Line) : Step :=
  match Machine.goesOn frame value machine.environment with
  | .error cause => .fault machine cause
  | .ok false => .go none machine.leaveLoop (.top after)
  | .ok true =>
    let frame := { frame with iterations := frame.iterations + 1 }
    let machine := { machine with frame := some frame }
    if limits.maxLoop < frame.iterations then .fault machine (.loopLimit limits.maxLoop)
    else
      change .bind machine ((machine.beginRound frame value).mapError .fault)
        (.body frame frame.body after)

def endRound (machine : Machine) (frame : Frame) (after : List Line) : Step :=
  match machine.endRound frame with
  | .error cause => .fault machine cause
  | .ok (changed, value) => .go (some .increment) changed (.test frame value after)

end Step

/-- The next step of a run. -/
def step (limits : Limits) (machine : Machine) : Control → Step
  | .top [] => .finish machine
  | .top (line :: more) => Step.statement limits false .top machine line more
  | .test frame value after => Step.test limits machine frame value after
  | .body frame [] after => Step.endRound machine frame after
  | .body frame (line :: more) after =>
    Step.statement limits true (fun rest => .body frame rest after) machine line more

namespace Step

/-- A control point is reached if the step goes on to it. -/
def Reaches (result : Step) (control : Control) : Prop :=
  ∃ event machine, result = .go event machine control

theorem reaches_change {event : Event} {machine : Machine} {changed : Except Failure Machine}
    {control reached : Control} (goes : (change event machine changed control).Reaches reached) :
    reached = control := by
  rcases goes with ⟨event', machine', equal⟩
  unfold change at equal
  split at equal
  · injection equal with _ _ same
    exact same.symm
  · rename_i failure
    cases failure <;> simp [ofFailure] at equal

theorem reaches_visiting {limits : Limits} {inBody : Bool} {line : Line} {machine : Machine}
    {next : Machine → Step} {reached : Control}
    (goes : (visiting limits inBody line machine next).Reaches reached) :
    ∃ visited, (next visited).Reaches reached := by
  rcases goes with ⟨event, machine', equal⟩
  simp only [visiting] at equal
  split at equal
  · simp at equal
  · exact ⟨_, event, machine', equal⟩

theorem reaches_passConsequence {inBody : Bool} {resume : List Line → Control} {machine : Machine}
    {consequence : Statement} {line : Line} {rest : List Line} {reached : Control}
    (goes : (passConsequence inBody resume machine consequence line rest).Reaches reached) :
    ∃ lines, lines.length ≤ rest.length ∧ reached = resume lines := by
  rcases goes with ⟨event, machine', equal⟩
  unfold passConsequence at equal
  split at equal
  · split at equal
    · simp at equal
    · rename_i block extracted
      injection equal with _ _ same
      exact ⟨block.after, Block.length_after_extract extracted, same.symm⟩
  · injection equal with _ _ same
    exact ⟨rest, Nat.le_refl _, same.symm⟩

theorem reaches_conditional {limits : Limits} {inBody : Bool} {resume : List Line → Control}
    {machine : Machine} {condition : Text} {more : List Line} {reached : Control}
    (goes : (conditional limits inBody resume machine condition more).Reaches reached) :
    ∃ lines, lines.length ≤ more.length ∧ reached = resume lines := by
  unfold conditional at goes
  split at goes
  · rcases goes with ⟨_, _, equal⟩
    simp at equal
  · split at goes
    · rcases goes with ⟨_, _, equal⟩
      injection equal with _ _ same
      exact ⟨[], Nat.zero_le _, same.symm⟩
    · rename_i line rest dropped
      have shorter : rest.length ≤ more.length := by
        have := (List.dropWhile_sublist (fun line : Line => isBraceOnly line.text)
          (l := more)).length_le
        rw [dropped] at this
        simp at this
        omega
      have weaken : (∃ lines, lines.length ≤ rest.length ∧ reached = resume lines) →
          ∃ lines, lines.length ≤ more.length ∧ reached = resume lines := by
        intro goes
        rcases goes with ⟨lines, bound, same⟩
        exact ⟨lines, Nat.le_trans bound shorter, same⟩
      split at goes
      · rcases goes with ⟨_, _, equal⟩
        simp at equal
      · split at goes
        · rcases reaches_visiting goes with ⟨visited, goes⟩
          split at goes
          · exact ⟨rest, shorter, reaches_change goes⟩
          · exact weaken (reaches_passConsequence goes)
        · exact weaken (reaches_passConsequence goes)

/-- A statement goes on to lines behind it, or, outside of loops, to a loop in front of such
lines. -/
theorem reaches_statement {limits : Limits} {inBody : Bool} {resume : List Line → Control}
    {machine : Machine} {line : Line} {more : List Line} {reached : Control}
    (goes : (statement limits inBody resume machine line more).Reaches reached) :
    (∃ lines, lines.length ≤ more.length ∧ reached = resume lines) ∨
      (inBody = false ∧ ∃ frame value after, after.length ≤ more.length ∧
        reached = .test frame value after) := by
  unfold statement at goes
  split at goes
  · rcases goes with ⟨_, _, equal⟩
    simp at equal
  · rcases goes with ⟨_, _, equal⟩
    injection equal with _ _ same
    exact .inl ⟨more, Nat.le_refl _, same.symm⟩
  · rcases goes with ⟨_, _, equal⟩
    injection equal with _ _ same
    exact .inl ⟨more, Nat.le_refl _, same.symm⟩
  · rcases reaches_visiting goes with ⟨visited, goes⟩
    split at goes
    · exact .inl ⟨more, Nat.le_refl _, reaches_change goes⟩
    · exact .inl ⟨more, Nat.le_refl _, reaches_change goes⟩
    · exact .inl (reaches_conditional goes)
    · rcases goes with ⟨_, _, equal⟩
      unfold startLoop at equal
      split at equal
      · simp at equal
      · rename_i block extracted
        split at equal
        · simp at equal
        · rename_i entered frame value _
          injection equal with _ _ same
          exact .inr ⟨rfl, frame, value, block.after, Block.length_after_extract extracted,
            same.symm⟩
    · rcases goes with ⟨_, _, equal⟩
      injection equal with _ _ same
      exact .inl ⟨more, Nat.le_refl _, same.symm⟩

/-- The order in which runs come closer to their end. -/
abbrev Closer : Nat × Nat × Nat → Nat × Nat × Nat → Prop :=
  Prod.Lex (· < ·) (Prod.Lex (· < ·) (· < ·))

theorem decreases {limits : Limits} {machine : Machine} {control reached : Control}
    (goes : (step limits machine control).Reaches reached) :
    Closer (reached.measure limits) (control.measure limits) := by
  match control with
  | .top [] =>
    rcases goes with ⟨_, _, equal⟩
    simp [step] at equal
  | .top (line :: more) =>
    have goes : (statement limits false .top machine line more).Reaches reached := goes
    rcases reaches_statement goes with ⟨lines, bound, rfl⟩ | ⟨_, frame, value, after, bound, rfl⟩
    · exact .left _ _ (by simp; omega)
    · exact .left _ _ (by simp; omega)
  | .test frame value after =>
    simp only [step, test] at goes
    split at goes
    · rcases goes with ⟨_, _, equal⟩
      simp at equal
    · rcases goes with ⟨_, _, equal⟩
      injection equal with _ _ same
      subst same
      exact .left _ _ (by omega)
    · split at goes
      · rcases goes with ⟨_, _, equal⟩
        simp at equal
      · rw [reaches_change goes]
        exact .right _ (.left _ _ (by simp only at *; omega))
  | .body frame [] after =>
    rcases goes with ⟨_, _, equal⟩
    simp only [step, endRound] at equal
    split at equal
    · simp at equal
    · injection equal with _ _ same
      subst same
      exact .right _ (.right _ (Nat.zero_lt_succ _))
  | .body frame (line :: more) after =>
    have goes : (statement limits true (fun rest => .body frame rest after) machine line
        more).Reaches reached := goes
    rcases reaches_statement goes with ⟨lines, bound, rfl⟩ | ⟨impossible, _⟩
    · exact .right _ (.right _ (by simp; omega))
    · simp at impossible

end Step

/-- Where a run stops next: at a change of a variable, or for good. -/
inductive Stop where
  | change (event : Event) (machine : Machine) (control : Control)
  | finish (machine : Machine)
  | fault (machine : Machine) (cause : Fault)
  | breakdown (machine : Machine) (cause : Breakdown)

/-- Goes on as long as nothing changes that an observer is shown. -/
def nextStop (limits : Limits) (machine : Machine) (control : Control) : Stop :=
  match _goes : step limits machine control with
  | .go none machine reached => nextStop limits machine reached
  | .go (some event) machine reached => .change event machine reached
  | .finish machine => .finish machine
  | .fault machine cause => .fault machine cause
  | .breakdown machine cause => .breakdown machine cause
termination_by control.measure limits
decreasing_by exact Step.decreases ⟨none, machine, _goes⟩

namespace Step

theorem Closer.trans {first second third : Nat × Nat × Nat} (left : Closer first second)
    (right : Closer second third) : Closer first third := by
  rcases first with ⟨a, b, c⟩
  rcases second with ⟨a', b', c'⟩
  rcases third with ⟨a'', b'', c''⟩
  simp only [Closer, Prod.lex_def] at left right ⊢
  omega

end Step

theorem nextStop_decreases {limits : Limits} {machine changed : Machine}
    {control reached : Control} {event : Event}
    (stop : nextStop limits machine control = .change event changed reached) :
    Step.Closer (reached.measure limits) (control.measure limits) := by
  fun_induction nextStop limits machine control with
  | case1 machine control silent middle goes ih =>
    exact (ih stop).trans (Step.decreases ⟨none, silent, goes⟩)
  | case2 machine control found shown middle goes =>
    injection stop with _ _ same
    subst same
    exact Step.decreases ⟨some found, shown, goes⟩
  | case3 => simp at stop
  | case4 => simp at stop
  | case5 => simp at stop

end StepScript

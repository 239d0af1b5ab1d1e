import StepScript.Proofs.Padding.Block
import StepScript.Proofs.Run.Operation

/-!
# Steps in a padded script

Two machines that run a script and its padded form mirror each other: they differ in the numbers of
lines and in the wording of the log.  A step of one is mirrored by a step of the other
(`step_mirrors`), once the inserted lines in front of the latter are passed.
-/

namespace StepScript

/-- Two results are both values that are related, or the same error. -/
inductive Agree {ε α β : Type} (related : α → β → Prop) : Except ε α → Except ε β → Prop
  | ok {value : α} {other : β} (relates : related value other) :
      Agree related (.ok value) (.ok other)
  | error (cause : ε) : Agree related (.error cause) (.error cause)

theorem Agree.cases {ε α β : Type} {related : α → β → Prop} {result : Except ε α}
    {other : Except ε β} (agree : Agree related result other) :
    (∃ value otherValue, result = .ok value ∧ other = .ok otherValue ∧ related value otherValue) ∨
      ∃ cause, result = .error cause ∧ other = .error cause := by
  cases agree with
  | ok relates => exact .inl ⟨_, _, rfl, rfl, relates⟩
  | error cause => exact .inr ⟨cause, rfl, rfl⟩

theorem Agree.mapError {ε ε' α β : Type} {related : α → β → Prop} {result : Except ε α}
    {other : Except ε β} (agree : Agree related result other) (translate : ε → ε') :
    Agree related (result.mapError translate) (other.mapError translate) := by
  cases agree with
  | ok relates => exact .ok relates
  | error cause => exact .error (translate cause)

/-- Faults that a run reports with the same code and wording. -/
def Fault.Alike (cause other : Fault) : Prop :=
  other.code = cause.code ∧ other.message = cause.message

theorem Fault.Alike.refl (cause : Fault) : cause.Alike cause :=
  ⟨rfl, rfl⟩

namespace Machine

/-- A machine in the same state as another one, with the lines at their places. -/
structure Mirrors (place : Nat → Nat) (machine other : Machine) : Prop where
  environment : other.environment = machine.environment
  cursor : other.cursor = machine.cursor.map place
  entries : other.entries.length = machine.entries.length
  highlight : other.highlight = machine.highlight
  arrayName : other.arrayName = machine.arrayName
  constants : other.constants = machine.constants.map fun (name, line) => (name, place line)
  steps : other.steps = machine.steps
  taken : other.taken = machine.taken

namespace Mirrors

variable {place : Nat → Nat} {machine other : Machine}

theorem visit (mirrors : Mirrors place machine other) (inBody : Bool) {line otherLine : Line}
    (echoes : line.Echoes place otherLine) :
    Mirrors place (machine.visit inBody line) (other.visit inBody otherLine) :=
  { mirrors with
    cursor := congrArg some echoes.index
    entries := congrArg (· + 1) mirrors.entries
    steps := congrArg (· + 1) mirrors.steps }

theorem constantLine? (mirrors : Mirrors place machine other) (name : Text) :
    other.constantLine? name = (machine.constantLine? name).map place := by
  rw [Machine.constantLine?, mirrors.constants, Machine.constantLine?]
  induction machine.constants with
  | nil => rfl
  | cons entry rest ih =>
    rcases entry with ⟨declared, line⟩
    simp only [List.map_cons, List.lookup_cons]
    cases name == declared with
    | true => rfl
    | false => exact ih

theorem bind (mirrors : Mirrors place machine other) (ordered : StrictMono place) (name : Text)
    (value : Value) (line : Option Nat) :
    Agree (Mirrors place) (machine.bind name value line)
      (other.bind name value (line.map place)) := by
  have known := mirrors.constantLine? name
  have same : (other.constantLine? name = line.map place) =
    (machine.constantLine? name = line) := by
    rw [known, (Option.map_injective ordered.injective).eq_iff]
  have bound : ((other.constantLine? name).isSome && other.constantLine? name != line.map place) =
      ((machine.constantLine? name).isSome && machine.constantLine? name != line) := by
    rw [Bool.eq_iff_iff]
    simp only [Bool.and_eq_true, bne_iff_ne, ne_eq, same]
    rw [known, Option.isSome_map]
  unfold Machine.bind
  rw [bound]
  split
  · exact .error _
  · refine .ok { mirrors with environment := ?_, arrayName := ?_ }
    · exact congrArg (Environment.bind name value) mirrors.environment
    · exact congrArg (if value.isArray then some name else ·) mirrors.arrayName

theorem noteConstant (mirrors : Mirrors place machine other) (name : Text) :
    Mirrors place (machine.noteConstant name) (other.noteConstant name) := by
  unfold Machine.noteConstant
  rw [mirrors.constantLine? name, mirrors.cursor]
  cases machine.constantLine? name with
  | some line => exact mirrors
  | none =>
    cases machine.cursor with
    | none => exact mirrors
    | some line =>
      refine { mirrors with cursor := ?_, constants := ?_ }
      · simp
      · simp [mirrors.constants]

theorem declare (mirrors : Mirrors place machine other) (ordered : StrictMono place)
    (name expression : Text) (keyword : Keyword) :
    Agree (Mirrors place) (machine.declare name expression keyword)
      (other.declare name expression keyword) := by
  unfold Machine.declare
  rw [mirrors.environment]
  cases declaredValue expression machine.environment with
  | error failure => exact .error failure
  | ok value =>
    have noted : Mirrors place
        (if keyword = .constWord then machine.noteConstant name else machine)
        (if keyword = .constWord then other.noteConstant name else other) := by
      split
      · exact mirrors.noteConstant name
      · exact mirrors
    dsimp only
    rw [noted.cursor]
    exact (noted.bind ordered name value _).mapError Failure.fault

theorem assign (mirrors : Mirrors place machine other) (ordered : StrictMono place)
    (name expression : Text) (index : Option Text) :
    Agree (Mirrors place) (machine.assign name expression index)
      (other.assign name expression index) := by
  unfold Machine.assign
  rw [mirrors.environment]
  cases evaluateText expression machine.environment with
  | error cause => exact .error cause
  | ok value =>
    cases index with
    | none => exact mirrors.bind ordered name value none
    | some index =>
      dsimp only
      cases updatedArray name expression index value machine.environment with
      | error cause => exact .error cause
      | ok updated => exact mirrors.bind ordered name updated none

theorem shownArray? (mirrors : Mirrors place machine other) :
    other.shownArray? = machine.shownArray? := by
  rw [Machine.shownArray?, mirrors.arrayName, mirrors.environment, Machine.shownArray?]

end Mirrors

end Machine

namespace Frame

/-- The frame of a loop in a padded script. -/
structure Mirrors (place : Nat → Nat) (frame other : Frame) : Prop where
  same : other =
    { frame with body := other.body, header := place frame.header, endIndex := other.endIndex }
  body : Padded place frame.body other.body

variable {place : Nat → Nat} {frame otherFrame : Frame} {machine other : Machine}

theorem Mirrors.counted (frames : Mirrors place frame otherFrame) :
    Mirrors place { frame with iterations := frame.iterations + 1 }
      { otherFrame with iterations := otherFrame.iterations + 1 } := by
  constructor
  · rw [frames.same]
  · exact frames.body

theorem Mirrors.goesOn (frames : Mirrors place frame otherFrame) (value : Float)
    (environment : Environment) :
    Machine.goesOn otherFrame value environment = Machine.goesOn frame value environment := by
  rw [frames.same]
  rfl

theorem Mirrors.beginRound (frames : Mirrors place frame otherFrame)
    (mirrors : machine.Mirrors place other) (ordered : StrictMono place) (value : Float) :
    Agree (Machine.Mirrors place) (machine.beginRound frame value)
      (other.beginRound otherFrame value) := by
  have counter : otherFrame.counter = frame.counter := by rw [frames.same]
  have header : otherFrame.header = place frame.header := by rw [frames.same]
  have binds : Agree (Machine.Mirrors place) (machine.bind frame.counter (.number value) none)
      (other.bind frame.counter (.number value) none) := mirrors.bind ordered _ _ none
  simp only [Machine.beginRound, counter, header]
  rcases binds.cases with ⟨bound, otherBound, same, sameToo, written⟩ | ⟨cause, same, sameToo⟩
  · rw [same, sameToo]
    refine .ok { written with cursor := rfl, highlight := ?_ }
    simp only [Machine.highlightFor, written.shownArray?]
  · rw [same, sameToo]
    exact .error cause

theorem Mirrors.endRound (frames : Mirrors place frame otherFrame)
    (mirrors : machine.Mirrors place other) (ordered : StrictMono place) :
    Agree (fun (after otherAfter : Machine × Float) =>
        after.1.Mirrors place otherAfter.1 ∧ otherAfter.2 = after.2)
      (machine.endRound frame) (other.endRound otherFrame) := by
  have counter : otherFrame.counter = frame.counter := by rw [frames.same]
  have header : otherFrame.header = place frame.header := by rw [frames.same]
  have change : otherFrame.step = frame.step := by rw [frames.same]
  simp only [Machine.endRound, counter, header, change, mirrors.environment]
  cases Environment.find? frame.counter machine.environment with
  | none => exact .error _
  | some value =>
    dsimp only
    cases value.toNumber (some frame.counter) with
    | error cause => exact .error cause
    | ok number =>
      have binds : Agree (Machine.Mirrors place)
          (machine.bind frame.counter (.number (number + frame.step)) none)
          (other.bind frame.counter (.number (number + frame.step)) none) :=
        mirrors.bind ordered _ _ none
      dsimp only
      rcases binds.cases with ⟨bound, otherBound, same, sameToo, written⟩ | ⟨cause, same, sameToo⟩
      · rw [same, sameToo]
        exact .ok ⟨{ written with cursor := rfl }, rfl⟩
      · rw [same, sameToo]
        exact .error cause

theorem mirrors_enterLoop {header : LoopHeader} {block otherBlock : Block} {line otherLine : Nat}
    (mirrors : machine.Mirrors place other) (alike : Block.Alike place block otherBlock)
    (here : otherLine = place line) :
    Agree (fun (entered otherEntered : Machine × Frame × Float) =>
        entered.1.Mirrors place otherEntered.1 ∧ Mirrors place entered.2.1 otherEntered.2.1 ∧
          otherEntered.2.2 = entered.2.2)
      (machine.enterLoop header line block) (other.enterLoop header otherLine otherBlock) := by
  simp only [Machine.enterLoop, mirrors.environment]
  cases evaluateText header.start machine.environment with
  | error cause => exact .error cause
  | ok value =>
    dsimp only
    cases value.toNumber (some header.start) with
    | error cause => exact .error cause
    | ok start => exact .ok ⟨{ mirrors with environment := rfl }, ⟨by rw [here], alike.body⟩, rfl⟩

end Frame

namespace Statement

variable {found other : Statement}

/-- A statement that says nothing. -/
def IsEmpty (statement : Statement) : Prop :=
  statement = .blank ∨ ∃ text, statement = .comment text

/-- Statements of the same essence differ only where both say nothing or neither is recognized. -/
theorem eq_or_of_essence (same : other.essence = found.essence) :
    other = found ∨ (found.IsEmpty ∧ other.IsEmpty) ∨
      ∃ text otherText, found = .unrecognized text ∧ other = .unrecognized otherText := by
  cases found <;> cases other <;> simp_all [essence, IsEmpty]

end Statement

/-- Lines that echo each other say the same, or cannot be read for the same reason. -/
theorem Line.Echoes.classify {place : Nat → Nat} {line other : Line}
    (echoes : line.Echoes place other) :
    Agree (fun found otherFound : Statement => otherFound.essence = found.essence)
      (classify line.text) (classify other.text) := by
  have same := classify_essence_eq echoes.text
  cases found : StepScript.classify line.text with
  | error cause =>
    cases otherFound : StepScript.classify other.text with
    | error otherCause =>
      rw [found, otherFound] at same
      rw [Except.error.inj same]
      exact .error cause
    | ok otherStatement => simp [found, otherFound, Except.map] at same
  | ok statement =>
    cases otherFound : StepScript.classify other.text with
    | error otherCause => simp [found, otherFound, Except.map] at same
    | ok otherStatement =>
      rw [found, otherFound] at same
      exact .ok (Except.ok.inj same)

/-! ## Control points -/

/-- Places of the same kind; loops that are under way are those of a script and its padded form. -/
inductive Place.Mirrors (place : Nat → Nat) : Place → Place → Prop
  | top : Mirrors place .top .top
  | body {frame otherFrame : Frame} {after otherAfter : List Line}
      (frames : frame.Mirrors place otherFrame) (padded : Padded place after otherAfter) :
      Mirrors place (.body frame after) (.body otherFrame otherAfter)

theorem Place.Mirrors.inBody {place : Nat → Nat} {site otherSite : Place}
    (sites : site.Mirrors place otherSite) : otherSite.inBody = site.inBody := by
  cases sites <;> rfl

/-- Control points in front of lists of lines that are related, or in front of the same test. -/
inductive Control.Mirrors (place : Nat → Nat) (related : List Line → List Line → Prop) :
    Control → Control → Prop
  | lines {site otherSite : Place} {rest otherRest : List Line}
      (sites : site.Mirrors place otherSite) (relates : related rest otherRest) :
      Mirrors place related (site.control rest) (otherSite.control otherRest)
  | test {frame otherFrame : Frame} {value : Float} {after otherAfter : List Line}
      (frames : frame.Mirrors place otherFrame) (padded : Padded place after otherAfter) :
      Mirrors place related (.test frame value after) (.test otherFrame value otherAfter)

/-- Steps that carry the same event to control points that mirror each other, or end alike. -/
inductive Step.Mirrors (place : Nat → Nat) : Step → Step → Prop
  | go {event : Option Event} {machine other : Machine} {control otherControl : Control}
      (mirrors : machine.Mirrors place other)
      (controls : control.Mirrors place (Padded place) otherControl) :
      Mirrors place (.go event machine control) (.go event other otherControl)
  | finish {machine other : Machine} (mirrors : machine.Mirrors place other) :
      Mirrors place (.finish machine) (.finish other)
  | fault {machine other : Machine} {cause otherCause : Fault}
      (mirrors : machine.Mirrors place other) (alike : cause.Alike otherCause) :
      Mirrors place (.fault machine cause) (.fault other otherCause)
  | breakdown {machine other : Machine} {cause : Breakdown}
      (mirrors : machine.Mirrors place other) :
      Mirrors place (.breakdown machine cause) (.breakdown other cause)

namespace Step

variable {place : Nat → Nat} {machine other : Machine} {site otherSite : Place}
  {line otherLine : Line} {rest otherRest : List Line} {limits : Limits}

theorem mirrors_change {changed otherChanged : Except Failure Machine}
    {control otherControl : Control} (event : Event) (mirrors : machine.Mirrors place other)
    (agree : Agree (Machine.Mirrors place) changed otherChanged)
    (controls : control.Mirrors place (Padded place) otherControl) :
    Mirrors place (change event machine changed control)
      (change event other otherChanged otherControl) := by
  cases agree with
  | ok relates => exact .go relates controls
  | error failure =>
    cases failure with
    | fault cause => exact .fault mirrors (.refl cause)
    | breakdown cause => exact .breakdown mirrors

theorem mirrors_visiting {next otherNext : Machine → Step} (inBody : Bool)
    (mirrors : machine.Mirrors place other) (echoes : line.Echoes place otherLine)
    (goesOn : ∀ visited otherVisited, Machine.Mirrors place visited otherVisited →
      Mirrors place (next visited) (otherNext otherVisited)) :
    Mirrors place (visiting limits inBody line machine next)
      (visiting limits inBody otherLine other otherNext) := by
  have visited := mirrors.visit inBody echoes
  simp only [visiting, visited.steps]
  split
  · exact .fault visited (.refl _)
  · exact goesOn _ _ visited

theorem mirrors_passConsequence {found otherFound : Statement}
    (sites : site.Mirrors place otherSite) (mirrors : machine.Mirrors place other)
    (echoes : line.Echoes place otherLine) (padded : Padded place rest otherRest)
    (same : otherFound.essence = found.essence) :
    Mirrors place (passConsequence site.inBody site.control machine found line rest)
      (passConsequence otherSite.inBody otherSite.control other otherFound otherLine
        otherRest) := by
  have passed : Mirrors place (.go none machine (site.control rest))
      (.go none other (otherSite.control otherRest)) := .go mirrors (.lines sites padded)
  rcases Statement.eq_or_of_essence same with
    rfl | ⟨rfl | ⟨text, rfl⟩, rfl | ⟨otherText, rfl⟩⟩ | ⟨text, otherText, rfl, rfl⟩
  · cases otherFound with
    | loop header =>
      cases sites with
      | body frames behind => exact passed
      | top =>
        simp only [passConsequence, Place.inBody]
        rcases Block.extract_padded echoes padded with
          ⟨text, otherText, unclosed, unclosedToo⟩ | ⟨block, otherBlock, cut, cutToo, alike⟩
        · rw [unclosed, unclosedToo]
          exact .fault mirrors ⟨rfl, rfl⟩
        · rw [cut, cutToo]
          exact .go mirrors (.lines .top alike.after)
    | _ => exact passed
  all_goals exact passed

theorem mirrors_conditional {more otherMore : List Line} (limits : Limits)
    (sites : site.Mirrors place otherSite) (ordered : StrictMono place)
    (mirrors : machine.Mirrors place other)
    (padded : Padded place more otherMore) (condition : Text) :
    Mirrors place (conditional limits site.inBody site.control machine condition more)
      (conditional limits otherSite.inBody otherSite.control other condition otherMore) := by
  have meets := padded.dropBraces
  simp only [conditional, mirrors.environment, sites.inBody]
  generalize more.dropWhile (fun line => isBraceOnly line.text) = behind at meets ⊢
  generalize otherMore.dropWhile (fun line => isBraceOnly line.text) = otherBehind at meets ⊢
  cases evaluateText condition machine.environment with
  | error cause => exact .fault mirrors (.refl cause)
  | ok value =>
    cases meets with
    | nil => exact .go mirrors (.lines sites .nil)
    | cons echoes behind =>
      dsimp only
      rcases echoes.classify.cases with ⟨found, otherFound, said, saidToo, same⟩ |
        ⟨cause, said, saidToo⟩
      · rw [said, saidToo]
        dsimp only
        split
        · apply mirrors_visiting _ mirrors echoes
          intro visited otherVisited visits
          have passed := mirrors_passConsequence sites visits echoes behind same
          rw [sites.inBody] at passed
          rcases Statement.eq_or_of_essence same with
            rfl | ⟨rfl | ⟨text, rfl⟩, rfl | ⟨otherText, rfl⟩⟩ | ⟨text, otherText, rfl, rfl⟩
          · cases otherFound with
            | assignment name expression index =>
              exact mirrors_change .condition visits
                ((visits.assign ordered name expression index).mapError Failure.fault)
                (.lines sites behind)
            | _ => exact passed
          all_goals exact passed
        · have passed := mirrors_passConsequence sites mirrors echoes behind same
          rw [sites.inBody] at passed
          exact passed
      · rw [said, saidToo]
        exact .breakdown mirrors

theorem mirrors_startLoop (mirrors : machine.Mirrors place other)
    (echoes : line.Echoes place otherLine) (padded : Padded place rest otherRest)
    (header : LoopHeader) :
    Mirrors place (startLoop header machine line rest)
      (startLoop header other otherLine otherRest) := by
  unfold startLoop
  rcases Block.extract_padded echoes padded with
    ⟨text, otherText, unclosed, unclosedToo⟩ | ⟨block, otherBlock, cut, cutToo, alike⟩
  · rw [unclosed, unclosedToo]
    exact .fault mirrors ⟨rfl, rfl⟩
  · rw [cut, cutToo]
    dsimp only
    rcases (Frame.mirrors_enterLoop mirrors alike echoes.index).cases with
      ⟨⟨entered, frame, value⟩, ⟨otherEntered, otherFrame, otherValue⟩, started, startedToo,
        enters, frames, rfl⟩ | ⟨cause, failed, failedToo⟩
    · rw [started, startedToo]
      exact .go enters (.test frames alike.after)
    · rw [failed, failedToo]
      exact .fault mirrors (.refl cause)

theorem mirrors_statement (limits : Limits) (sites : site.Mirrors place otherSite)
    (ordered : StrictMono place)
    (mirrors : machine.Mirrors place other) (echoes : line.Echoes place otherLine)
    (padded : Padded place rest otherRest) :
    Mirrors place (statement limits site.inBody site.control machine line rest)
      (statement limits otherSite.inBody otherSite.control other otherLine otherRest) := by
  have resumed : (site.control rest).Mirrors place (Padded place) (otherSite.control otherRest) :=
    .lines sites padded
  unfold statement
  rw [sites.inBody]
  rcases echoes.classify.cases with ⟨found, otherFound, said, saidToo, same⟩ |
    ⟨cause, said, saidToo⟩
  · rw [said, saidToo]
    rcases Statement.eq_or_of_essence same with
      rfl | ⟨rfl | ⟨text, rfl⟩, rfl | ⟨otherText, rfl⟩⟩ | ⟨text, otherText, rfl, rfl⟩
    · cases otherFound with
      | blank | comment text => exact .go mirrors resumed
      | declaration name expression keyword =>
        refine mirrors_visiting _ mirrors echoes ?_
        intro visited otherVisited visits
        exact mirrors_change .declare visits
          (visits.declare ordered name expression keyword) resumed
      | assignment name expression index =>
        refine mirrors_visiting _ mirrors echoes ?_
        intro visited otherVisited visits
        exact mirrors_change .assign visits
          ((visits.assign ordered name expression index).mapError Failure.fault) resumed
      | conditional condition =>
        refine mirrors_visiting _ mirrors echoes ?_
        intro visited otherVisited visits
        have judged := mirrors_conditional limits sites ordered visits padded condition
        rw [sites.inBody] at judged
        exact judged
      | loop header =>
        refine mirrors_visiting _ mirrors echoes ?_
        intro visited otherVisited visits
        cases sites with
        | top => exact mirrors_startLoop visits echoes padded header
        | body frames behind => exact .go visits resumed
      | unrecognized text =>
        refine mirrors_visiting _ mirrors echoes ?_
        intro visited otherVisited visits
        exact .go visits resumed
    · exact .go mirrors resumed
    · exact .go mirrors resumed
    · exact .go mirrors resumed
    · exact .go mirrors resumed
    · refine mirrors_visiting _ mirrors echoes ?_
      intro visited otherVisited visits
      exact .go visits resumed
  · rw [said, saidToo]
    exact .breakdown mirrors

theorem mirrors_test {frame otherFrame : Frame} (frames : frame.Mirrors place otherFrame)
    (ordered : StrictMono place) (mirrors : machine.Mirrors place other)
    (padded : Padded place rest otherRest) (value : Float) :
    Mirrors place (test limits machine frame value rest)
      (test limits other otherFrame value otherRest) := by
  have judged : Machine.goesOn otherFrame value other.environment =
      Machine.goesOn frame value machine.environment := by
    rw [frames.goesOn, mirrors.environment]
  unfold test
  rw [judged]
  cases Machine.goesOn frame value machine.environment with
  | error cause => exact .fault mirrors (.refl cause)
  | ok goesOn =>
    cases goesOn with
    | false => exact .go { mirrors with highlight := rfl } (.lines .top padded)
    | true =>
      have counted : Machine.Mirrors place (machine.countRound frame).1
          (other.countRound otherFrame).1 := { mirrors with }
      have rounds : otherFrame.iterations = frame.iterations := by rw [frames.same]
      have inside : Control.Mirrors place (Padded place)
          (.body (machine.countRound frame).2 frame.body rest)
          (.body (other.countRound otherFrame).2 otherFrame.body otherRest) :=
        .lines (.body frames.counted padded) frames.body
      dsimp only
      by_cases exceeded : limits.maxLoop < ((frame.iterations + 1 : Nat) : Int)
      · rw [if_pos exceeded, if_pos (rounds ▸ exceeded)]
        exact .fault counted (.refl _)
      · rw [if_neg exceeded, if_neg (rounds ▸ exceeded)]
        exact mirrors_change .bind counted
          ((frames.counted.beginRound counted ordered value).mapError Failure.fault) inside

theorem mirrors_endRound {frame otherFrame : Frame} (frames : frame.Mirrors place otherFrame)
    (ordered : StrictMono place) (mirrors : machine.Mirrors place other)
    (padded : Padded place rest otherRest) :
    Mirrors place (endRound machine frame rest) (endRound other otherFrame otherRest) := by
  unfold endRound
  rcases (frames.endRound mirrors ordered).cases with
    ⟨⟨changed, value⟩, ⟨otherChanged, otherValue⟩, ended, endedToo, changes, rfl⟩ |
      ⟨cause, failed, failedToo⟩
  · rw [ended, endedToo]
    exact .go changes (.test frames padded)
  · rw [failed, failedToo]
    exact .fault mirrors (.refl cause)

end Step

/-- A step in a script is mirrored in the padded one, where no inserted line is next. -/
theorem step_mirrors {place : Nat → Nat} (ordered : StrictMono place) {limits : Limits}
    {machine other : Machine} {control otherControl : Control}
    (mirrors : machine.Mirrors place other)
    (controls : control.Mirrors place (Padded.Meets place) otherControl) :
    Step.Mirrors place (step limits machine control) (step limits other otherControl) := by
  cases controls with
  | test frames padded => exact Step.mirrors_test frames ordered mirrors padded _
  | lines sites meets =>
    cases meets with
    | nil =>
      cases sites with
      | top => exact .finish mirrors
      | body frames padded => exact Step.mirrors_endRound frames ordered mirrors padded
    | cons echoes padded =>
      have moved := Step.mirrors_statement limits sites ordered mirrors echoes padded
      cases sites with
      | top => exact moved
      | body frames behind => exact moved

end StepScript

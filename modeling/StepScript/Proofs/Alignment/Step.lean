import StepScript.Proofs.Alignment.Line

/-!
# Steps in aligned scripts

Two machines that run aligned scripts are aligned as long as they differ in the numbers of lines, in
the log and in what extra lines have cost.  A step of the second script either passes an extra line,
or it is aligned with a step of the first (`step_aligned`), unless the extra lines have used up the
steps that the limit allows.
-/

namespace StepScript

variable {alignment : Alignment}

theorem Agree.imp {ε α β : Type} {related weaker : α → β → Prop} {result : Except ε α}
    {other : Except ε β} (agree : Agree related result other)
    (imp : ∀ value otherValue, related value otherValue → weaker value otherValue) :
    Agree weaker result other := by
  cases agree with
  | ok relates => exact .ok (imp _ _ relates)
  | error cause => exact .error cause

namespace Machine

/-- Machines that run aligned scripts. -/
structure Aligns (alignment : Alignment) (machine other : Machine) : Prop where
  environment : other.environment = machine.environment
  highlight : other.highlight = machine.highlight
  arrayName : other.arrayName = machine.arrayName
  constants : List.Forall₂
    (fun entry otherEntry => otherEntry.1 = entry.1 ∧ alignment.Fixes entry.2 otherEntry.2)
    machine.constants other.constants
  taken : other.taken = machine.taken
  steps_le : machine.steps ≤ other.steps
  abreast : alignment.extra = false →
    other.steps = machine.steps ∧ other.entries.length = machine.entries.length

/-- Aligned machines that stand at lines that stand for each other. -/
structure Meets (alignment : Alignment) (machine other : Machine) : Prop
    extends Aligns alignment machine other where
  cursor : Option.Rel alignment.stands machine.cursor other.cursor

variable {machine other : Machine}

namespace Aligns

theorem visit (aligns : machine.Aligns alignment other) (inBody : Bool) {line otherLine : Line}
    (stands : alignment.stands line.index otherLine.index) :
    Meets alignment (machine.visit inBody line) (other.visit inBody otherLine) where
  environment := aligns.environment
  highlight := aligns.highlight
  arrayName := aligns.arrayName
  constants := aligns.constants
  taken := aligns.taken
  steps_le := Nat.succ_le_succ aligns.steps_le
  abreast := by
    intro none
    obtain ⟨steps, entries⟩ := aligns.abreast none
    exact ⟨congrArg (· + 1) steps, congrArg (· + 1) entries⟩
  cursor := .some stands

/-- Only the second machine visits an extra line. -/
theorem pass (aligns : machine.Aligns alignment other) (allowed : alignment.extra = true)
    (inBody : Bool) (line : Line) : machine.Aligns alignment (other.visit inBody line) where
  environment := aligns.environment
  highlight := aligns.highlight
  arrayName := aligns.arrayName
  constants := aligns.constants
  taken := aligns.taken
  steps_le := Nat.le_succ_of_le aligns.steps_le
  abreast none := by simp [allowed] at none

theorem constantLine? (aligns : machine.Aligns alignment other) (name : Text) :
    Option.Rel alignment.Fixes (machine.constantLine? name) (other.constantLine? name) := by
  have constants := aligns.constants
  unfold Machine.constantLine?
  generalize machine.constants = entries at constants ⊢
  generalize other.constants = otherEntries at constants ⊢
  induction constants with
  | nil => exact .none
  | @cons entry otherEntry entries otherEntries related rest ih =>
    obtain ⟨declared, line⟩ := entry
    obtain ⟨otherDeclared, otherLine⟩ := otherEntry
    obtain ⟨rfl, fixes⟩ := related
    rw [List.lookup_cons, List.lookup_cons]
    cases name == otherDeclared with
    | true => exact .some fixes
    | false => exact ih

theorem written (aligns : machine.Aligns alignment other) (name : Text) (value : Value) :
    Aligns alignment (machine.written name value) (other.written name value) where
  environment := congrArg (Environment.bind name value) aligns.environment
  highlight := aligns.highlight
  arrayName := congrArg (if value.isArray then some name else ·) aligns.arrayName
  constants := aligns.constants
  taken := aligns.taken
  steps_le := aligns.steps_le
  abreast := aligns.abreast

/-- A constant is protected against the same lines. -/
theorem bind (aligns : machine.Aligns alignment other) {line otherLine : Option Nat}
    (stand : Option.Rel alignment.stands line otherLine) (name : Text) (value : Value) :
    Agree (fun bound otherBound => bound = machine.written name value ∧
        otherBound = other.written name value)
      (machine.bind name value line) (other.bind name value otherLine) := by
  have same : ((other.constantLine? name).isSome && other.constantLine? name != otherLine) =
      ((machine.constantLine? name).isSome && machine.constantLine? name != line) := by
    have known := aligns.constantLine? name
    generalize machine.constantLine? name = declared at known ⊢
    generalize other.constantLine? name = otherDeclared at known ⊢
    cases known with
    | none => rfl
    | some fixes =>
      cases stand with
      | none => rfl
      | some stands =>
        rw [Bool.eq_iff_iff]
        simp only [Option.isSome_some, Bool.true_and, bne_iff_ne, ne_eq, Option.some.injEq]
        rw [eq_comm, ← fixes _ _ stands, eq_comm]
  unfold Machine.bind
  rw [same]
  split
  · exact .error _
  · exact .ok ⟨rfl, rfl⟩

theorem shownArray? (aligns : machine.Aligns alignment other) :
    other.shownArray? = machine.shownArray? := by
  rw [Machine.shownArray?, aligns.arrayName, aligns.environment, Machine.shownArray?]

end Aligns

namespace Meets

/-- Written machines stand where they stood. -/
theorem bind (meets : machine.Meets alignment other) {line otherLine : Option Nat}
    (stand : Option.Rel alignment.stands line otherLine) (name : Text) (value : Value) :
    Agree (Meets alignment) (machine.bind name value line) (other.bind name value otherLine) := by
  apply (meets.toAligns.bind stand name value).imp
  intro bound otherBound written
  rw [written.1, written.2]
  exact { meets.toAligns.written name value with cursor := meets.cursor }

theorem noteConstant (meets : machine.Meets alignment other)
    (fixes : Option.Rel alignment.Fixes machine.cursor other.cursor) (name : Text) :
    Meets alignment (machine.noteConstant name) (other.noteConstant name) := by
  have known := meets.constantLine? name
  unfold Machine.noteConstant
  generalize machine.constantLine? name = declared at known ⊢
  generalize other.constantLine? name = otherDeclared at known ⊢
  cases known with
  | some => exact meets
  | none =>
    cases line : machine.cursor with
    | none =>
      rw [line] at fixes
      cases otherLine : other.cursor with
      | none => exact meets
      | some => simp [otherLine] at fixes
    | some index =>
      cases otherLine : other.cursor with
      | none => simp [line, otherLine] at fixes
      | some otherIndex =>
        have stands := meets.cursor
        rw [line, otherLine] at fixes stands
        cases fixes with
        | some fixes =>
          exact
            { meets with
              constants := List.rel_append meets.constants (.cons ⟨rfl, fixes⟩ .nil)
              cursor := stands }

theorem declare (meets : machine.Meets alignment other) (name expression : Text)
    (keyword : Keyword)
    (fixes : keyword = .constWord → Option.Rel alignment.Fixes machine.cursor other.cursor) :
    Agree (Meets alignment) (machine.declare name expression keyword)
      (other.declare name expression keyword) := by
  unfold Machine.declare
  rw [meets.environment]
  cases declaredValue expression machine.environment with
  | error failure => exact .error failure
  | ok value =>
    have noted : Meets alignment
        (if keyword = .constWord then machine.noteConstant name else machine)
        (if keyword = .constWord then other.noteConstant name else other) := by
      split
      next constant => exact meets.noteConstant (fixes constant) name
      next => exact meets
    exact (noted.bind noted.cursor name value).mapError Failure.fault

theorem assign (meets : machine.Meets alignment other) (name expression : Text)
    (index : Option Text) :
    Agree (Meets alignment) (machine.assign name expression index)
      (other.assign name expression index) := by
  unfold Machine.assign
  rw [meets.environment]
  cases evaluateText expression machine.environment with
  | error cause => exact .error cause
  | ok value =>
    cases index with
    | none => exact meets.bind .none name value
    | some index =>
      dsimp only
      cases updatedArray name expression index value machine.environment with
      | error cause => exact .error cause
      | ok updated => exact meets.bind .none name updated

end Meets

end Machine

namespace Frame

/-- Frames of aligned loops. -/
structure Aligns (alignment : Alignment) (frame other : Frame) : Prop where
  same : other =
    { frame with body := other.body, header := other.header, endIndex := other.endIndex }
  header : alignment.stands frame.header other.header
  body : Aligned alignment true false frame.body other.body

variable {frame otherFrame : Frame} {machine other : Machine}

namespace Aligns

theorem counted (frames : frame.Aligns alignment otherFrame) :
    Aligns alignment { frame with iterations := frame.iterations + 1 }
      { otherFrame with iterations := otherFrame.iterations + 1 } where
  same := by rw [frames.same]
  header := frames.header
  body := frames.body

theorem goesOn (frames : frame.Aligns alignment otherFrame) (value : Float)
    (environment : Environment) :
    Machine.goesOn otherFrame value environment = Machine.goesOn frame value environment := by
  rw [frames.same]
  rfl

theorem beginRound (frames : frame.Aligns alignment otherFrame)
    (machines : machine.Aligns alignment other) (value : Float) :
    Agree (Machine.Meets alignment) (machine.beginRound frame value)
      (other.beginRound otherFrame value) := by
  have counter : otherFrame.counter = frame.counter := by rw [frames.same]
  simp only [Machine.beginRound, counter]
  obtain ⟨bound, otherBound, same, sameToo, rfl, rfl⟩ | ⟨cause, same, sameToo⟩ :=
    (machines.bind .none frame.counter (.number value)).cases
  · rw [same, sameToo]
    have written := machines.written frame.counter (.number value)
    refine .ok { written with highlight := ?_, cursor := .some frames.header }
    simp only [Machine.highlightFor, written.shownArray?]
  · rw [same, sameToo]
    exact .error cause

theorem endRound (frames : frame.Aligns alignment otherFrame)
    (machines : machine.Aligns alignment other) :
    Agree (fun (after otherAfter : Machine × Float) =>
        after.1.Meets alignment otherAfter.1 ∧ otherAfter.2 = after.2)
      (machine.endRound frame) (other.endRound otherFrame) := by
  have counter : otherFrame.counter = frame.counter := by rw [frames.same]
  have change : otherFrame.step = frame.step := by rw [frames.same]
  simp only [Machine.endRound, counter, change, machines.environment]
  cases Environment.find? frame.counter machine.environment with
  | none => exact .error _
  | some value =>
    dsimp only
    cases value.toNumber (some frame.counter) with
    | error cause => exact .error cause
    | ok number =>
      dsimp only
      obtain ⟨bound, otherBound, same, sameToo, rfl, rfl⟩ | ⟨cause, same, sameToo⟩ :=
        (machines.bind .none frame.counter (.number (number + frame.step))).cases
      · rw [same, sameToo]
        have written := machines.written frame.counter (.number (number + frame.step))
        exact .ok ⟨{ written with cursor := .some frames.header }, rfl⟩
      · rw [same, sameToo]
        exact .error cause

end Aligns

/-- Aligned loops are entered with the same value, or cannot be entered for the same reason. -/
theorem aligns_enterLoop {block otherBlock : Block} {line otherLine : Nat} (header : LoopHeader)
    (machines : machine.Aligns alignment other) (stands : alignment.stands line otherLine)
    (body : Aligned alignment true false block.body otherBlock.body) :
    Agree (fun (entered otherEntered : Machine × Frame × Float) =>
        entered.1.Aligns alignment otherEntered.1 ∧
          entered.2.1.Aligns alignment otherEntered.2.1 ∧ otherEntered.2.2 = entered.2.2)
      (machine.enterLoop header line block) (other.enterLoop header otherLine otherBlock) := by
  simp only [Machine.enterLoop, machines.environment]
  cases evaluateText header.start machine.environment with
  | error cause => exact .error cause
  | ok value =>
    dsimp only
    cases value.toNumber (some header.start) with
    | error cause => exact .error cause
    | ok start =>
      exact .ok ⟨{ machines with environment := rfl }, ⟨rfl, stands, body⟩, rfl⟩

end Frame

/-! ## Control points -/

/-- Places of the same kind; loops that are under way are aligned, and so are the lines behind. -/
inductive Place.Aligns (alignment : Alignment) : Place → Place → Prop
  | top : Aligns alignment .top .top
  | body {frame otherFrame : Frame} {after otherAfter : List Line}
      (frames : frame.Aligns alignment otherFrame)
      (behind : Aligned alignment false false after otherAfter) :
      Aligns alignment (.body frame after) (.body otherFrame otherAfter)

theorem Place.Aligns.inBody {site otherSite : Place} (sites : site.Aligns alignment otherSite) :
    otherSite.inBody = site.inBody := by
  cases sites <;> rfl

/-- Control points in front of aligned lines, or in front of the same test. -/
inductive Control.Aligns (alignment : Alignment) : Control → Control → Prop
  | lines {site otherSite : Place} {rest otherRest : List Line}
      (sites : site.Aligns alignment otherSite)
      (aligned : Aligned alignment site.inBody false rest otherRest) :
      Aligns alignment (site.control rest) (otherSite.control otherRest)
  | test {frame otherFrame : Frame} {value : Float} {after otherAfter : List Line}
      (frames : frame.Aligns alignment otherFrame)
      (behind : Aligned alignment false false after otherAfter) :
      Aligns alignment (.test frame value after) (.test otherFrame value otherAfter)

/-- Steps that carry the same event to aligned control points, or end alike.  With extra lines, the
second script may come to the limit of steps where the first one does not. -/
inductive Step.Aligns (alignment : Alignment) (limits : Limits) : Step → Step → Prop
  | silent {machine other : Machine} {control otherControl : Control}
      (machines : machine.Aligns alignment other)
      (controls : control.Aligns alignment otherControl) :
      Aligns alignment limits (.go none machine control) (.go none other otherControl)
  | shown {event : Event} {machine other : Machine} {control otherControl : Control}
      (meets : machine.Meets alignment other)
      (controls : control.Aligns alignment otherControl) :
      Aligns alignment limits (.go (some event) machine control)
        (.go (some event) other otherControl)
  | finish {machine other : Machine} (machines : machine.Aligns alignment other) :
      Aligns alignment limits (.finish machine) (.finish other)
  | fault {machine other : Machine} {cause otherCause : Fault}
      (machines : machine.Aligns alignment other) (alike : cause.Alike otherCause) :
      Aligns alignment limits (.fault machine cause) (.fault other otherCause)
  | breakdown {machine other : Machine} {cause : Breakdown} :
      Aligns alignment limits (.breakdown machine cause) (.breakdown other cause)
  | exhausted {result : Step} {other : Machine} (allowed : alignment.extra = true) :
      Aligns alignment limits result (.fault other (.stepLimit limits.maxSteps))

namespace Step

variable {machine other : Machine} {site otherSite : Place} {line otherLine : Line}
  {rest otherRest : List Line} {limits : Limits}

theorem aligns_change {changed otherChanged : Except Failure Machine}
    {control otherControl : Control} (event : Event) (machines : machine.Aligns alignment other)
    (agree : Agree (Machine.Meets alignment) changed otherChanged)
    (controls : control.Aligns alignment otherControl) :
    Aligns alignment limits (change event machine changed control)
      (change event other otherChanged otherControl) := by
  cases agree with
  | ok meets => exact .shown meets controls
  | error failure =>
    cases failure with
    | fault cause => exact .fault machines (.refl cause)
    | breakdown cause => exact .breakdown

theorem aligns_visiting {next otherNext : Machine → Step} (inBody : Bool)
    (machines : machine.Aligns alignment other)
    (stands : alignment.stands line.index otherLine.index)
    (goesOn : Machine.Meets alignment (machine.visit inBody line)
        (other.visit inBody otherLine) →
      Aligns alignment limits (next (machine.visit inBody line))
        (otherNext (other.visit inBody otherLine))) :
    Aligns alignment limits (visiting limits inBody line machine next)
      (visiting limits inBody otherLine other otherNext) := by
  have meets := machines.visit inBody stands
  by_cases exceededToo : Exhausted limits other
  · rw [visiting_of_exhausted exceededToo]
    cases allowed : alignment.extra with
    | true => exact .exhausted allowed
    | false =>
      have exceeded : Exhausted limits machine := by
        rw [Exhausted, ← (machines.abreast allowed).1]
        exact exceededToo
      rw [visiting_of_exhausted exceeded]
      exact .fault meets.toAligns (.refl _)
  · have within : ¬Exhausted limits machine := by
      have steps_le := machines.steps_le
      unfold Exhausted at exceededToo ⊢
      omega
    rw [visiting_of_within exceededToo, visiting_of_within within]
    exact goesOn meets

/-- A consequence that opens no block here is passed as a single line. -/
theorem passConsequence_of_flat {inBody : Bool} {resume : List Line → Control} {found : Statement}
    (flat : ∀ header, found = .loop header → inBody = true) :
    passConsequence inBody resume machine found line rest = .go none machine (resume rest) := by
  unfold passConsequence
  split
  next header => cases flat header rfl
  next => rfl

/-- Statements of the same essence open the same loops. -/
theorem flat_of_essence {inBody : Bool} {found otherFound : Statement}
    (same : otherFound.essence = found.essence)
    (flat : ∀ header, found = .loop header → inBody = true) :
    ∀ header, otherFound = .loop header → inBody = true := by
  intro header loop
  apply flat header
  cases found <;> simp_all [Statement.essence]

/-- What a condition makes of the line behind it. -/
def consequence (limits : Limits) (inBody : Bool) (resume : List Line → Control)
    (machine : Machine) (holds : Bool) (found : Statement) (line : Line) (rest : List Line) :
    Step :=
  if holds then
    visiting limits inBody line machine fun visited =>
      match found with
      | .assignment name expression index =>
        change .condition visited ((visited.assign name expression index).mapError .fault)
          (resume rest)
      | _ => passConsequence inBody resume visited found line rest
  else passConsequence inBody resume machine found line rest

theorem aligns_consequence {next otherNext : Line} (limits : Limits) (holds : Bool)
    (sites : site.Aligns alignment otherSite) (machines : machine.Aligns alignment other)
    (aligns : next.Aligns alignment otherNext) {found otherFound : Statement}
    (same : otherFound.essence = found.essence)
    (flat : ∀ header, found = .loop header → site.inBody = true)
    (behind : Aligned alignment site.inBody false rest otherRest) :
    Aligns alignment limits
      (consequence limits site.inBody site.control machine holds found next rest)
      (consequence limits site.inBody otherSite.control other holds otherFound otherNext
        otherRest) := by
  have resumed : (site.control rest).Aligns alignment (otherSite.control otherRest) :=
    .lines sites behind
  have flatToo := flat_of_essence same flat
  simp only [consequence, passConsequence_of_flat flat, passConsequence_of_flat flatToo]
  cases holds with
  | false => exact .silent machines resumed
  | true =>
    rw [if_pos rfl, if_pos rfl]
    apply aligns_visiting site.inBody machines aligns.stands
    intro meets
    obtain rfl | ⟨rfl | ⟨text, rfl⟩, rfl | ⟨otherText, rfl⟩⟩ | ⟨text, otherText, rfl, rfl⟩ :=
      Statement.eq_or_of_essence same
    · cases otherFound with
      | assignment name expression index =>
        exact aligns_change .condition meets.toAligns
          ((meets.assign name expression index).mapError Failure.fault) resumed
      | _ => exact .silent meets.toAligns resumed
    all_goals exact .silent meets.toAligns resumed

theorem aligns_conditional (limits : Limits) (sites : site.Aligns alignment otherSite)
    (machines : machine.Aligns alignment other)
    (aligned : Aligned alignment site.inBody true rest otherRest) (condition : Text) :
    Aligns alignment limits
      (conditional limits site.inBody site.control machine condition rest)
      (conditional limits otherSite.inBody otherSite.control other condition otherRest) := by
  have behind := aligned.dropBraces
  unfold conditional
  rw [machines.environment, sites.inBody]
  cases evaluateText condition machine.environment with
  | error cause => exact .fault machines (.refl cause)
  | ok value =>
    dsimp only
    generalize rest.dropWhile (fun line => isBraceOnly line.text) = lines at behind ⊢
    generalize otherRest.dropWhile (fun line => isBraceOnly line.text) = otherLines at behind ⊢
    generalize inside : site.inBody = inBody at behind ⊢
    cases behind with
    | nil => exact .silent machines (.lines sites (inside ▸ .nil))
    | kept aligns flat behind =>
      subst inside
      dsimp only
      obtain ⟨found, otherFound, said, saidToo, same⟩ | ⟨cause, said, saidToo⟩ :=
        aligns.classify.cases
      · rw [said, saidToo]
        have single : ∀ header, found = .loop header → site.inBody = true :=
          fun header loop => flat header (said.trans (congrArg _ loop))
        exact aligns_consequence limits value.truthy sites machines aligns same single behind.relax
      · rw [said, saidToo]
        exact .breakdown
    | loop classified classifiedToo stands extracted extractedToo body after =>
      cases sites with
      | body => cases inside
      | top =>
        dsimp only
        rw [classified, classifiedToo]
        dsimp only [passConsequence]
        rw [extracted, extractedToo]
        split
        · exact aligns_visiting false machines stands fun meets =>
            .silent meets.toAligns (.lines .top after)
        · exact .silent machines (.lines .top after)
    | unclosed classified classifiedToo stands unclosed unclosedToo alike =>
      cases sites with
      | body => cases inside
      | top =>
        dsimp only
        rw [classified, classifiedToo]
        dsimp only [passConsequence]
        rw [unclosed, unclosedToo]
        split
        · exact aligns_visiting false machines stands fun meets =>
            .fault meets.toAligns alike
        · exact .fault machines alike

theorem aligns_kept (limits : Limits) (sites : site.Aligns alignment otherSite)
    (machines : machine.Aligns alignment other) (aligns : line.Aligns alignment otherLine)
    (flat : ∀ header, classify line.text = .ok (.loop header) → site.inBody = true)
    (aligned : Aligned alignment site.inBody
      (if isBraceOnly line.text then false else isCondition line.text) rest otherRest) :
    Aligns alignment limits (statement limits site.inBody site.control machine line rest)
      (statement limits otherSite.inBody otherSite.control other otherLine otherRest) := by
  have resumed : (site.control rest).Aligns alignment (otherSite.control otherRest) :=
    .lines sites aligned.relax
  unfold statement
  rw [sites.inBody]
  obtain ⟨found, otherFound, said, saidToo, same⟩ | ⟨cause, said, saidToo⟩ :=
    aligns.classify.cases
  · rw [said, saidToo]
    obtain rfl | ⟨rfl | ⟨text, rfl⟩, rfl | ⟨otherText, rfl⟩⟩ | ⟨text, otherText, rfl, rfl⟩ :=
      Statement.eq_or_of_essence same
    · cases otherFound with
      | blank | comment text => exact .silent machines resumed
      | declaration name expression keyword =>
        apply aligns_visiting site.inBody machines aligns.stands
        intro meets
        apply aligns_change .declare meets.toAligns _ resumed
        apply meets.declare
        intro constant
        rw [constant] at said
        exact .some (aligns.fixes name expression said)
      | assignment name expression index =>
        apply aligns_visiting site.inBody machines aligns.stands
        intro meets
        exact aligns_change .assign meets.toAligns
          ((meets.assign name expression index).mapError Failure.fault) resumed
      | conditional condition =>
        rw [isBraceOnly_of_conditional said, isCondition_of_conditional said] at aligned
        apply aligns_visiting site.inBody machines aligns.stands
        intro meets
        have judged := aligns_conditional limits sites meets.toAligns aligned condition
        rw [sites.inBody] at judged
        exact judged
      | loop header =>
        apply aligns_visiting site.inBody machines aligns.stands
        intro meets
        rw [flat header said] at meets ⊢
        exact .silent meets.toAligns resumed
      | unrecognized text =>
        apply aligns_visiting site.inBody machines aligns.stands
        intro meets
        exact .silent meets.toAligns resumed
    · exact .silent machines resumed
    · exact .silent machines resumed
    · exact .silent machines resumed
    · exact .silent machines resumed
    · apply aligns_visiting site.inBody machines aligns.stands
      intro meets
      exact .silent meets.toAligns resumed
  · rw [said, saidToo]
    exact .breakdown

theorem aligns_test {frame otherFrame : Frame} (frames : frame.Aligns alignment otherFrame)
    (machines : machine.Aligns alignment other)
    (behind : Aligned alignment false false rest otherRest) (value : Float) :
    Aligns alignment limits (test limits machine frame value rest)
      (test limits other otherFrame value otherRest) := by
  have judged : Machine.goesOn otherFrame value other.environment =
      Machine.goesOn frame value machine.environment := by
    rw [frames.goesOn, machines.environment]
  unfold test
  rw [judged]
  cases Machine.goesOn frame value machine.environment with
  | error cause => exact .fault machines (.refl cause)
  | ok goesOn =>
    cases goesOn with
    | false => exact .silent { machines with highlight := rfl } (.lines .top behind)
    | true =>
      have counted : Machine.Aligns alignment (machine.countRound frame).1
          (other.countRound otherFrame).1 := { machines with }
      have rounds : otherFrame.iterations = frame.iterations := by rw [frames.same]
      have inside : Control.Aligns alignment
          (.body (machine.countRound frame).2 frame.body rest)
          (.body (other.countRound otherFrame).2 otherFrame.body otherRest) :=
        .lines (.body frames.counted behind) frames.body
      dsimp only
      by_cases exceeded : limits.maxLoop < ((frame.iterations + 1 : Nat) : Int)
      · rw [if_pos exceeded, if_pos (rounds ▸ exceeded)]
        exact .fault counted (.refl _)
      · rw [if_neg exceeded, if_neg (rounds ▸ exceeded)]
        exact aligns_change .bind counted
          ((frames.counted.beginRound counted value).mapError Failure.fault) inside

theorem aligns_endRound {frame otherFrame : Frame} (frames : frame.Aligns alignment otherFrame)
    (machines : machine.Aligns alignment other)
    (behind : Aligned alignment false false rest otherRest) :
    Aligns alignment limits (endRound machine frame rest)
      (endRound other otherFrame otherRest) := by
  unfold endRound
  obtain ⟨⟨changed, value⟩, ⟨otherChanged, otherValue⟩, ended, endedToo, meets, rfl⟩ |
    ⟨cause, failed, failedToo⟩ := (frames.endRound machines).cases
  · rw [ended, endedToo]
    exact .shown meets (.test frames behind)
  · rw [failed, failedToo]
    exact .fault machines (.refl cause)

theorem aligns_loop {header : LoopHeader} {block otherBlock : Block} (limits : Limits)
    (machines : machine.Aligns alignment other)
    (classified : classify line.text = .ok (.loop header))
    (classifiedToo : classify otherLine.text = .ok (.loop header))
    (stands : alignment.stands line.index otherLine.index)
    (extracted : Block.extract line rest = .ok block)
    (extractedToo : Block.extract otherLine otherRest = .ok otherBlock)
    (body : Aligned alignment true false block.body otherBlock.body)
    (after : Aligned alignment false false block.after otherBlock.after) :
    Aligns alignment limits (statement limits false .top machine line rest)
      (statement limits false .top other otherLine otherRest) := by
  unfold statement
  rw [classified, classifiedToo]
  apply aligns_visiting false machines stands
  intro meets
  dsimp only
  unfold startLoop
  rw [extracted, extractedToo]
  dsimp only
  obtain ⟨⟨entered, frame, value⟩, ⟨otherEntered, otherFrame, otherValue⟩, started, startedToo,
    enters, frames, rfl⟩ | ⟨cause, failed, failedToo⟩ :=
    (Frame.aligns_enterLoop header meets.toAligns stands body).cases
  · rw [started, startedToo]
    exact .silent enters (.test frames after)
  · rw [failed, failedToo]
    exact .fault meets.toAligns (.refl cause)

theorem aligns_unclosed {header : LoopHeader} {cause otherCause : Fault} (limits : Limits)
    (machines : machine.Aligns alignment other)
    (classified : classify line.text = .ok (.loop header))
    (classifiedToo : classify otherLine.text = .ok (.loop header))
    (stands : alignment.stands line.index otherLine.index)
    (unclosed : Block.extract line rest = .error cause)
    (unclosedToo : Block.extract otherLine otherRest = .error otherCause)
    (alike : cause.Alike otherCause) :
    Aligns alignment limits (statement limits false .top machine line rest)
      (statement limits false .top other otherLine otherRest) := by
  unfold statement
  rw [classified, classifiedToo]
  apply aligns_visiting false machines stands
  intro meets
  dsimp only
  unfold startLoop
  rw [unclosed, unclosedToo]
  exact .fault meets.toAligns alike

/-- An extra line is passed, unless its visit exceeds the limit. -/
theorem statement_of_extra {text : Text} (limits : Limits) (inBody : Bool)
    (resume : List Line → Control) (machine : Machine)
    (unrecognized : classify line.text = .ok (.unrecognized text)) :
    statement limits inBody resume machine line rest =
      visiting limits inBody line machine fun visited => .go none visited (resume rest) := by
  unfold statement
  rw [unrecognized]

end Step

/-- At aligned control points the second script passes an extra line, or both steps are aligned. -/
theorem step_aligned {machine other : Machine} {control otherControl : Control} (limits : Limits)
    (machines : machine.Aligns alignment other)
    (controls : control.Aligns alignment otherControl) :
    (∃ after reached, step limits other otherControl = .go none after reached ∧
      machine.Aligns alignment after ∧ control.Aligns alignment reached) ∨
    Step.Aligns alignment limits (step limits machine control)
      (step limits other otherControl) := by
  cases controls with
  | test frames behind => exact .inr (Step.aligns_test frames machines behind _)
  | @lines site otherSite rest otherRest sites aligned =>
    generalize inside : site.inBody = inBody at aligned
    generalize idle : false = awaited at aligned
    cases aligned with
    | nil =>
      cases sites with
      | top => exact .inr (.finish machines)
      | body frames behind => exact .inr (Step.aligns_endRound frames machines behind)
    | extra allowed unrecognized rest =>
      subst inside
      rw [Step.step_control limits other, Step.statement_of_extra limits _ _ _ unrecognized]
      by_cases exceeded : Step.Exhausted limits other
      · rw [Step.visiting_of_exhausted exceeded]
        exact .inr (.exhausted allowed)
      · rw [Step.visiting_of_within exceeded]
        exact .inl ⟨_, _, rfl, machines.pass allowed _ _, .lines sites rest⟩
    | kept aligns flat rest =>
      subst inside idle
      rw [Step.step_control, Step.step_control]
      exact .inr (Step.aligns_kept limits sites machines aligns flat rest)
    | loop classified classifiedToo stands extracted extractedToo body after =>
      cases sites with
      | body => cases inside
      | top =>
        exact .inr (Step.aligns_loop limits machines classified classifiedToo stands extracted
          extractedToo body after)
    | unclosed classified classifiedToo stands unclosed unclosedToo alike =>
      cases sites with
      | body => cases inside
      | top =>
        exact .inr (Step.aligns_unclosed limits machines classified classifiedToo stands unclosed
          unclosedToo alike)

end StepScript

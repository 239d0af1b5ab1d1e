import StepScript.Proofs.Block.Extent
import StepScript.Proofs.Environment
import StepScript.Proofs.Run.Operation

/-!
# Where a run goes on behind a condition

A condition is passed together with its consequence, which is the first statement behind it that is
more than a brace.  The lines alone tell where that ends (`Passage.unique`): behind a condition a
run goes on at the same statement, whatever the variables are and whether the condition holds or not
(`Step.conditional_resumes`).
-/

namespace StepScript

/-! ## What a condition passes -/

/-- The statements of a script that are run in sequence: all its lines, outside of loops, and the
body of each of its loops. -/
inductive IsSequence (lines : List Text) : (inBody : Bool) → List Line → Prop where
  | top : IsSequence lines false (numberLines 0 lines)
  | body {header : Nat} {text : Text} {clauses : LoopHeader} {block : Block}
      (here : lines[header]? = some text) (classified : classify text = .ok (.loop clauses))
      (extracted : Block.extractFrom lines header text = .ok block) :
      IsSequence lines true block.body

/-- At `index` stands the first statement behind a position that is more than a brace. -/
structure ConsequenceAt (sequence : List Line) (position index : Nat) (line : Line) : Prop where
  behind : position < index
  braces : ∀ between other, position < between → between < index →
    sequence[between]? = some other → isBraceOnly other.text = true
  stands : sequence[index]? = some line
  spoken : isBraceOnly line.text = false

/-- Between a condition at `position` and the statement at the position given last stand braces, and
behind them the consequence of the condition: nothing, a single statement, or a loop outside of
loops with its whole block. -/
inductive Passage (lines : List Text) (inBody : Bool) (sequence : List Line) (position : Nat) :
    Nat → Prop where
  | braces (braces : ∀ between other, position < between → sequence[between]? = some other →
      isBraceOnly other.text = true) :
      Passage lines inBody sequence position sequence.length
  | single {index : Nat} {line : Line} (consequence : ConsequenceAt sequence position index line)
      (flat : ∀ header, classify line.text = .ok (.loop header) → inBody = true) :
      Passage lines inBody sequence position (index + 1)
  | block {index last : Nat} {line : Line} {header : LoopHeader}
      (consequence : ConsequenceAt sequence position index line)
      (loop : classify line.text = .ok (.loop header)) (outside : inBody = false)
      (ends : IsLeast {last | Block.Closes lines index last} last) :
      Passage lines inBody sequence position (last + 1)

section Passage

variable {lines : List Text} {inBody : Bool} {sequence rest : List Line}
  {position index next other : Nat} {line : Line}

/-- The lines behind a position, cut where the first of them is more than a brace. -/
theorem exists_consequenceAt
    (behind : (sequence.drop (position + 1)).dropWhile (fun line => isBraceOnly line.text) =
      line :: rest) :
    ∃ index, ConsequenceAt sequence position index line ∧ rest = sequence.drop (index + 1) := by
  set more := sequence.drop (position + 1) with more_eq
  set bare := more.takeWhile fun line => isBraceOnly line.text with bare_eq
  have whole : more = bare ++ line :: rest := by
    rw [bare_eq, ← behind, List.takeWhile_append_dropWhile]
  have left : sequence.drop (position + 1 + bare.length) = line :: rest := by
    rw [← List.drop_drop, ← more_eq, whole, List.drop_left]
  refine ⟨position + 1 + bare.length, ⟨by omega, ?_, ?_, ?_⟩, ?_⟩
  · intro between other after before found
    have inside : bare[between - (position + 1)]? = some other := by
      rw [← found, ← List.getElem?_append_left (by omega), ← whole, more_eq, List.getElem?_drop]
      congr 1
      omega
    exact List.mem_takeWhile_imp (p := fun line : Line => isBraceOnly line.text)
      (List.mem_of_getElem? inside)
  · rw [← List.head?_drop, left, List.head?_cons]
  · have head := List.head?_dropWhile_not (fun line : Line => isBraceOnly line.text) more
    simpa [behind] using head
  · rw [← List.drop_drop, left]
    rfl

/-- Where nothing but braces stands behind a position, there is no consequence. -/
theorem passage_of_braces
    (nothing : (sequence.drop (position + 1)).dropWhile (fun line => isBraceOnly line.text) = []) :
    Passage lines inBody sequence position sequence.length := by
  refine .braces fun between other after found => ?_
  have member : other ∈ sequence.drop (position + 1) := by
    apply List.mem_of_getElem? (i := between - (position + 1))
    rw [List.getElem?_drop, Nat.add_sub_cancel' after, found]
  exact List.dropWhile_eq_nil_iff.mp nothing other member

namespace ConsequenceAt

variable {otherLine : Line}

theorem le (consequence : ConsequenceAt sequence position index line)
    (otherConsequence : ConsequenceAt sequence position other otherLine) : index ≤ other := by
  by_contra before
  have bare := consequence.braces other otherLine otherConsequence.behind (by omega)
    otherConsequence.stands
  simp [otherConsequence.spoken] at bare

/-- There is one consequence at most. -/
theorem unique (consequence : ConsequenceAt sequence position index line)
    (otherConsequence : ConsequenceAt sequence position other otherLine) :
    index = other ∧ line = otherLine := by
  obtain rfl := (consequence.le otherConsequence).antisymm (otherConsequence.le consequence)
  exact ⟨rfl, Option.some.inj (consequence.stands.symm.trans otherConsequence.stands)⟩

theorem not_braces (consequence : ConsequenceAt sequence position index line) :
    ¬∀ between other, position < between → sequence[between]? = some other →
      isBraceOnly other.text = true := by
  intro braces
  have bare := braces index line consequence.behind consequence.stands
  simp [consequence.spoken] at bare

end ConsequenceAt

namespace Passage

/-- The lines tell where a passage ends. -/
theorem unique (passage : Passage lines inBody sequence position next)
    (otherPassage : Passage lines inBody sequence position other) : next = other := by
  -- The consequence tells the kind of the passage, so passages of two kinds exclude each other.
  cases passage with
  | braces bare =>
    cases otherPassage with
    | braces => rfl
    | single consequence | block consequence => exact absurd bare consequence.not_braces
  | single consequence flat =>
    cases otherPassage with
    | braces bare => exact absurd bare consequence.not_braces
    | single otherConsequence => rw [(consequence.unique otherConsequence).1]
    | block otherConsequence loop outside =>
      obtain ⟨rfl, rfl⟩ := consequence.unique otherConsequence
      cases outside.symm.trans (flat _ loop)
  | block consequence loop outside ends =>
    cases otherPassage with
    | braces bare => exact absurd bare consequence.not_braces
    | single otherConsequence flat =>
      obtain ⟨rfl, rfl⟩ := consequence.unique otherConsequence
      cases outside.symm.trans (flat _ loop)
    | block otherConsequence _ _ otherEnds =>
      obtain ⟨rfl, rfl⟩ := consequence.unique otherConsequence
      rw [ends.unique otherEnds]

/-- A passage leads forward. -/
theorem lt (passage : Passage lines inBody sequence position next)
    (inside : position < sequence.length) : position < next := by
  cases passage with
  | braces => exact inside
  | single consequence => exact consequence.behind.trans (Nat.lt_succ_self _)
  | block consequence _ _ ends =>
    have behind := consequence.behind
    have within := ends.1.header_le
    omega

/-- A passage ends in its sequence, or behind the last statement of it. -/
theorem le_length (passage : Passage lines inBody sequence position next)
    (isSequence : IsSequence lines inBody sequence) : next ≤ sequence.length := by
  cases passage with
  | braces => exact le_rfl
  | single consequence => exact (List.getElem?_eq_some_iff.mp consequence.stands).1
  | block consequence _ outside ends =>
    cases isSequence with
    | top =>
      rw [length_numberLines]
      exact ends.1.last_lt
    | body => cases outside

end Passage

/-- Outside of loops, a block ends at the first line that closes it, and the lines behind that line
are left. -/
theorem ends_of_extract {block : Block} (stands : (numberLines 0 lines)[index]? = some line)
    (extracted : Block.extract line ((numberLines 0 lines).drop (index + 1)) = .ok block) :
    IsLeast {last | Block.Closes lines index last} block.endIndex ∧
      block.after = (numberLines 0 lines).drop (block.endIndex + 1) := by
  rw [getElem?_numberLines, Option.map_eq_some_iff] at stands
  obtain ⟨text, here, rfl⟩ := stands
  rw [drop_numberLines, Nat.zero_add, Nat.zero_add] at extracted
  rw [drop_numberLines, Nat.zero_add]
  exact Block.ends_of_extractFrom here extracted

end Passage

/-! ## Conditions that return -/

def ConditionAt (sequence : List Line) (position : Nat) (condition : Text) : Prop :=
  ∃ line, sequence[position]? = some line ∧ classify line.text = .ok (.conditional condition)

/-- Behind a condition at `position` a run goes on in front of the statement at `next`. -/
structure Control.GoesOnAt (lines : List Text) (place : Place) (sequence : List Line)
    (position : Nat) (control : Control) (next : Nat) : Prop where
  control_eq : control = place.control (sequence.drop next)
  behind : position < next
  within : next ≤ sequence.length
  passage : Passage lines place.inBody sequence position next

/-- What a condition may do to the variables: one of them changes at most, and none if the condition
does not hold or has no assignment as its consequence. -/
structure Affects (sequence : List Line) (position : Nat) (condition : Text)
    (before after : Environment) : Prop where
  amends : Environment.Amends before after
  of_false : ∀ value, evaluateText condition before = .ok value → value.truthy = false →
    after = before
  of_idle : (∀ index line, ConsequenceAt sequence position index line →
    ∀ name expression cell, classify line.text ≠ .ok (.assignment name expression cell)) →
    after = before

theorem Affects.unchanged (sequence : List Line) (position : Nat) (condition : Text)
    (environment : Environment) : Affects sequence position condition environment environment :=
  ⟨.unchanged environment, fun _ _ _ => rfl, fun _ => rfl⟩

namespace Step

variable {lines : List Text} {limits : Limits} {place : Place} {sequence : List Line}
  {position : Nat} {machine changed : Machine} {event : Option Event} {control : Control}

theorem goesOnAt_of_passage {next : Nat} (isSequence : IsSequence lines place.inBody sequence)
    (inside : position < sequence.length)
    (passage : Passage lines place.inBody sequence position next) :
    (place.control (sequence.drop next)).GoesOnAt lines place sequence position next :=
  ⟨rfl, passage.lt inside, passage.le_length isSequence, passage⟩

/-- A consequence that is not run is passed as a single statement, or with its block. -/
theorem goesOnAt_of_passConsequence {index : Nat} {line : Line} {found : Statement}
    (isSequence : IsSequence lines place.inBody sequence) (inside : position < sequence.length)
    (consequence : ConsequenceAt sequence position index line)
    (classified : classify line.text = .ok found)
    (passes : passConsequence place.inBody place.control machine found line
      (sequence.drop (index + 1)) = .go event changed control) :
    changed = machine ∧ ∃ next, control.GoesOnAt lines place sequence position next := by
  unfold passConsequence at passes
  split at passes
  next header outside =>
    split at passes
    next => cases passes
    next block extracted =>
      cases passes
      refine ⟨rfl, block.endIndex + 1, ?_⟩
      have top : sequence = numberLines 0 lines := by
        rw [outside] at isSequence
        cases isSequence
        rfl
      subst top
      obtain ⟨ends, after⟩ := ends_of_extract consequence.stands extracted
      rw [after]
      exact goesOnAt_of_passage isSequence inside (.block consequence classified outside ends)
  next flat =>
    cases passes
    refine ⟨rfl, index + 1, goesOnAt_of_passage isSequence inside (.single consequence ?_)⟩
    intro header loop
    exact Bool.eq_true_of_not_eq_false
      (flat header (Except.ok.inj (classified.symm.trans loop)))

theorem flat_of_assignment {line name expression : Text} {cell : Option Text} {inBody : Bool}
    (classified : classify line = .ok (.assignment name expression cell)) :
    ∀ header, classify line = .ok (.loop header) → inBody = true := by
  intro header loop
  cases classified.symm.trans loop

theorem affects_of_assign {index : Nat} {line : Line} {condition name expression : Text}
    {cell : Option Text} {value : Value} {inBody : Bool}
    (consequence : ConsequenceAt sequence position index line)
    (classified : classify line.text = .ok (.assignment name expression cell))
    (evaluated : evaluateText condition machine.environment = .ok value)
    (holds : value.truthy = true)
    (assigned : (machine.visit inBody line).assign name expression cell = .ok changed) :
    Affects sequence position condition machine.environment changed.environment := by
  obtain ⟨result, rfl⟩ := Machine.assign_ok assigned
  refine ⟨Environment.amends_bind name result machine.environment, ?_, ?_⟩
  · intro other same fails
    rw [Except.ok.inj (same.symm.trans evaluated), holds] at fails
    cases fails
  · intro idle
    exact absurd classified (idle index line consequence name expression cell)

/-- A condition that returns goes on behind its passage and affects one variable at most. -/
theorem goesOnAt_of_conditional {condition : Text}
    (isSequence : IsSequence lines place.inBody sequence) (inside : position < sequence.length)
    (returns : conditional limits place.inBody place.control machine condition
      (sequence.drop (position + 1)) = .go event changed control) :
    (∃ next, control.GoesOnAt lines place sequence position next) ∧
      Affects sequence position condition machine.environment changed.environment := by
  unfold conditional at returns
  split at returns
  next => cases returns
  next value evaluated =>
    split at returns
    next nothing =>
      cases returns
      have goesOn := goesOnAt_of_passage isSequence inside (passage_of_braces nothing)
      rw [List.drop_length] at goesOn
      exact ⟨⟨_, goesOn⟩, .unchanged _ _ _ _⟩
    next line rest behind =>
      obtain ⟨index, consequence, rfl⟩ := exists_consequenceAt behind
      split at returns
      next => cases returns
      next found classified =>
        split at returns
        next holds =>
          -- Only an assignment is run.  All else is passed as if the condition did not hold.
          by_cases exceeded : Exhausted limits machine
          · rw [visiting_of_exhausted exceeded] at returns
            cases returns
          · rw [visiting_of_within exceeded] at returns
            split at returns
            next name expression cell =>
              cases assigned : (machine.visit place.inBody line).assign name expression cell with
              | error cause =>
                rw [assigned] at returns
                cases returns
              | ok after =>
                rw [assigned] at returns
                cases returns
                exact ⟨⟨index + 1, goesOnAt_of_passage isSequence inside
                  (.single consequence (flat_of_assignment classified))⟩,
                  affects_of_assign consequence classified evaluated holds assigned⟩
            next idle =>
              obtain ⟨rfl, goesOn⟩ :=
                goesOnAt_of_passConsequence isSequence inside consequence classified returns
              exact ⟨goesOn, .unchanged _ _ _ _⟩
        next fails =>
          obtain ⟨rfl, goesOn⟩ :=
            goesOnAt_of_passConsequence isSequence inside consequence classified returns
          exact ⟨goesOn, .unchanged _ _ _ _⟩

/-- Where a run goes on behind a condition does not depend on data.  On two machines, each under
limits of its own, the condition at a position is run without a failure.  Both go on at the same
statement, in front of which stand just the braces and the consequence behind the condition, and
each has changed one variable at most.  A run that is cancelled where the change is shown gets no
further. -/
theorem conditional_resumes {otherLimits : Limits} {otherPlace : Place} {condition : Text}
    {other otherChanged : Machine} {otherEvent : Option Event} {otherControl : Control}
    (isSequence : IsSequence lines place.inBody sequence)
    (alike : otherPlace.inBody = place.inBody) (stands : ConditionAt sequence position condition)
    (returns : conditional limits place.inBody place.control machine condition
      (sequence.drop (position + 1)) = .go event changed control)
    (returnsToo : conditional otherLimits otherPlace.inBody otherPlace.control other condition
      (sequence.drop (position + 1)) = .go otherEvent otherChanged otherControl) :
    ∃ next, control.GoesOnAt lines place sequence position next ∧
      otherControl.GoesOnAt lines otherPlace sequence position next ∧
      Affects sequence position condition machine.environment changed.environment ∧
      Affects sequence position condition other.environment otherChanged.environment := by
  obtain ⟨line, here, _⟩ := stands
  have inside : position < sequence.length := (List.getElem?_eq_some_iff.mp here).1
  obtain ⟨⟨next, goesOn⟩, affects⟩ := goesOnAt_of_conditional isSequence inside returns
  obtain ⟨⟨nextToo, goesOnToo⟩, affectsToo⟩ :=
    goesOnAt_of_conditional (alike ▸ isSequence) inside returnsToo
  have same : nextToo = next := (alike ▸ goesOnToo.passage).unique goesOn.passage
  exact ⟨next, goesOn, same ▸ goesOnToo, affects, affectsToo⟩

/-- A loop behind a condition is passed with its block, whether the condition holds or not. -/
theorem conditional_resumes_of_loop :
    let lines := ["if (a)", "\x7b", "for (let i = 0; i < 1; i++) \x7b", "a = a", "\x7d",
      "a = a"].map String.toList
    let sequence := numberLines 0 lines
    let holding := { Machine.initial with environment := [(['a'], .boolean true)] }
    let failing := { Machine.initial with environment := [(['a'], .boolean false)] }
    let behind := Control.top [⟨5, "a = a".toList⟩]
    IsSequence lines Place.top.inBody sequence ∧ ConditionAt sequence 0 ['a'] ∧
      conditional .standard Place.top.inBody Place.top.control holding ['a'] (sequence.drop 1) =
        .go none (holding.visit false ⟨2, "for (let i = 0; i < 1; i++) \x7b".toList⟩) behind ∧
      conditional .standard Place.top.inBody Place.top.control failing ['a'] (sequence.drop 1) =
        .go none failing behind ∧
      behind.GoesOnAt lines .top sequence 0 5 := by
  intro lines sequence holding failing behind
  have isSequence : IsSequence lines Place.top.inBody sequence := .top
  have stands : ConditionAt sequence 0 ['a'] := ⟨⟨0, "if (a)".toList⟩, rfl, by cbv⟩
  have returns : conditional .standard Place.top.inBody Place.top.control holding ['a']
      (sequence.drop 1) =
    .go none (holding.visit false ⟨2, "for (let i = 0; i < 1; i++) \x7b".toList⟩) behind := rfl
  have returnsToo : conditional .standard Place.top.inBody Place.top.control failing ['a']
    (sequence.drop 1) = .go none failing behind := rfl
  obtain ⟨next, goesOn, _⟩ := conditional_resumes isSequence rfl stands returns returnsToo
  have left := congrArg List.length (Control.top.inj goesOn.control_eq)
  have same : next = 5 := by
    have within : next ≤ 6 := goesOn.within
    rw [List.length_drop, show sequence.length = 6 from rfl, List.length_singleton] at left
    omega
  exact ⟨isSequence, stands, returns, returnsToo, same ▸ goesOn⟩

end Step

end StepScript

import StepScript.Proofs.Run.Course
import StepScript.Proofs.Run.Position

/-!
# What an observer has seen

The observer of a run is handed its snapshots one by one.  It has seen some of them at every moment
of the run, also of a run that breaks down later and returns nothing.  `Observed` holds of the
snapshots of every such moment: they begin what the course of the run shows
(`isPrefix_of_observed`), and of a run that returns they can be all that it returns
(`observed_of_run`).  What each snapshot has to do with those before it is therefore proved step by
step, with an invariant of the machine and the snapshots so far (`Sustained`,
`throughout_of_observed`).
-/

namespace StepScript

/-- The snapshots that the observer of a stream has been handed at some moment, oldest first.
`cancels` tells at which snapshots it cancels. -/
inductive Observed (cancels : Snapshot → Bool) : Engine → Stream → List Snapshot → Prop where
  | nothing (engine : Engine) (stream : Stream) : Observed cancels engine stream []
  | handed {engine suspended : Engine} {stream rest : Stream} {shown : Snapshot}
      {later : List Snapshot} (given : engine.next stream = (suspended, .snapshot shown rest))
      (goesOn : Observed cancels (suspended.observe cancels shown) rest later) :
      Observed cancels engine stream (shown :: later)

namespace Engine

variable {cancels : Snapshot → Bool} {engine : Engine} {stream : Stream}

/-- The observer of a run that returns has seen what the run returns. -/
theorem observed_of_drive {seen : List Snapshot} {ended : Engine} {result : RunResult}
    (returned : drive cancels engine stream seen = (ended, .ok result)) :
    ∃ shots, result.snapshots = seen.reverse ++ shots ∧ Observed cancels engine stream shots := by
  fun_induction drive cancels engine stream seen with
  | case1 engine stream seen suspended shown rest answer ih =>
    obtain ⟨shots, all, observed⟩ := ih returned
    exact ⟨shown :: shots, by simp [all], .handed answer observed⟩
  | case2 engine stream seen ended outcome answer =>
    obtain ⟨_, same⟩ := Prod.mk.inj returned
    rw [← Except.ok.inj same]
    exact ⟨[], by simp, .nothing engine stream⟩
  | case3 engine stream seen stopped cause answer => simp at returned

theorem observed_of_run {script : Text} {speed : Option Value} {ended : Engine}
    {result : RunResult} (returned : engine.run script speed cancels = (ended, .ok result)) :
    Observed cancels engine (.unstarted script speed) result.snapshots := by
  obtain ⟨shots, all, observed⟩ := observed_of_drive returned
  obtain rfl : shots = result.snapshots := by simpa using all.symm
  exact observed

/-- A stream that answers without a snapshot hands its observer nothing. -/
theorem eq_nil_of_observed {shots : List Snapshot} (observed : Observed cancels engine stream shots)
    (silent : ∀ shown rest, (engine.next stream).2 ≠ .snapshot shown rest) : shots = [] := by
  cases observed with
  | nothing => rfl
  | handed given goesOn => exact absurd (congrArg Prod.snd given) (silent _ _)

/-- A stream whose only snapshot left is its last one hands its observer no other one. -/
theorem isPrefix_of_settled {shots : List Snapshot} {suspended : Engine} {last : Snapshot}
    {outcome : Outcome} (observed : Observed cancels engine stream shots)
    (answer : engine.next stream = (suspended, .snapshot last (.settled outcome))) :
    shots <+: [last] := by
  cases observed with
  | nothing => exact List.nil_prefix
  | handed given goesOn =>
    cases answer.symm.trans given
    have none := eq_nil_of_observed goesOn (by simp [next])
    rw [none]

/-- The observer of an engine that advances from a control point sees the course from there. -/
theorem isPrefix_of_course {limits : Limits} {lines : List Text} {machine : Machine}
    {control : Control} {shots : List Snapshot} {ending : Ending}
    (course : Course limits cancels machine control shots ending) :
    ∀ (advancing : Engine) {engine : Engine} {stream : Stream} {seen : List Snapshot},
      advancing.limits = limits → advancing.machine = machine →
      advancing.cancelRequested = false →
      engine.next stream = advancing.advance lines control →
      Observed cancels engine stream seen → seen <+: ending.allShots lines shots := by
  induction course with
  | @silent machine after control reached shots ending goes rest ih =>
    intro advancing engine stream seen ruled stands wanted next observed
    subst ruled stands
    rw [advance_of_silent goes] at next
    exact ih { advancing with machine := after } rfl rfl wanted next observed
  | @shown machine changed control reached event shots ending goes kept rest ih =>
    intro advancing engine stream seen ruled stands wanted next observed
    subst ruled stands
    rw [advance_of_change goes] at next
    cases observed with
    | nothing => exact List.nil_prefix
    | handed given goesOn =>
      cases next.symm.trans given
      rw [observe, if_neg (by simp [kept])] at goesOn
      let suspended : Engine :=
        { advancing with phase := .running, machine := (changed.showing event).1 }
      have resumed : suspended.next (.suspended lines reached) =
          suspended.advance lines reached := if_neg (by simp [suspended, wanted])
      exact (List.prefix_cons_inj _).mpr (ih suspended rfl rfl wanted resumed goesOn)
  | @cancelled machine changed control reached event goes stopped =>
    intro advancing engine stream seen ruled stands wanted next observed
    subst ruled stands
    rw [advance_of_change goes] at next
    cases observed with
    | nothing => exact List.nil_prefix
    | handed given goesOn =>
      cases next.symm.trans given
      rw [observe, if_pos stopped] at goesOn
      have none := eq_nil_of_observed goesOn (by simp [Engine.next, cancel])
      rw [none]
      exact List.prefix_rfl
  | finished ends =>
    intro advancing engine stream seen ruled stands wanted next observed
    subst ruled stands
    rw [advance_of_finish ends] at next
    exact isPrefix_of_settled observed next
  | faulted fails =>
    intro advancing engine stream seen ruled stands wanted next observed
    subst ruled stands
    rw [advance_of_fault fails] at next
    exact isPrefix_of_settled observed next
  | broken breaks =>
    intro advancing engine stream seen ruled stands wanted next observed
    subst ruled stands
    rw [advance_of_breakdown breaks] at next
    have none := eq_nil_of_observed observed (by simp [next])
    rw [none]
    exact List.nil_prefix

/-- What the observer of a script has seen begins what a course from its first line shows. -/
theorem isPrefix_of_observed {script : Text} {speed : Option Value} {seen : List Snapshot}
    (observed : Observed cancels engine (.unstarted script speed) seen) :
    seen = [] ∨ ∃ shots ending,
      Course engine.limits cancels .started (.top (numberLines 0 (Text.lines script)))
        shots ending ∧
      seen <+: ending.allShots (Text.lines script) shots := by
  cases busy : engine.isRunning with
  | true => exact .inl (eq_nil_of_observed observed (by simp [next_of_running busy]))
  | false =>
    cases accepted : Dialect.violation? script with
    | some rule =>
      exact .inl (eq_nil_of_observed observed (by simp [next_of_violation busy accepted]))
    | none =>
      cases paced : pacing speed with
      | error cause =>
        exact .inl (eq_nil_of_observed observed (by simp [next_of_unpaced busy accepted paced]))
      | ok delay =>
        obtain ⟨shots, ending, course⟩ := Course.total engine.limits cancels .started
          (.top (numberLines 0 (Text.lines script)))
        refine .inr ⟨shots, ending, course, ?_⟩
        exact isPrefix_of_course course
          { engine.cleared with phase := .running, delay, machine := .started } rfl rfl rfl
          (next_of_accepted busy accepted paced) observed

end Engine

/-! ## Properties of all snapshots -/

/-- Each snapshot of a list has a property together with those before it. -/
def Snapshot.Throughout (property : List Snapshot → Snapshot → Prop) (shots : List Snapshot) :
    Prop :=
  ∀ before shown, before ++ [shown] <+: shots → property before shown

/-- The step does not go on. -/
def Step.Halts (result : Step) : Prop :=
  ∀ event after reached, result ≠ .go event after reached

/-- An invariant of the snapshots so far, the machine and its control point: it holds in front of
the first line, every step keeps it, and it gives each snapshot the property. -/
structure Sustained (limits : Limits) (lines : List Text)
    (kept : List Snapshot → Machine → Control → Prop) (property : List Snapshot → Snapshot → Prop) :
    Prop where
  begins : kept [] .started (.top (numberLines 0 lines))
  silent : ∀ {seen machine control after reached}, kept seen machine control →
    step limits machine control = .go none after reached → kept seen after reached
  shown : ∀ {seen machine control event changed reached}, kept seen machine control →
    step limits machine control = .go (some event) changed reached →
    property seen (changed.showing event).2 ∧
      kept (seen ++ [(changed.showing event).2]) (changed.showing event).1 reached
  ends : ∀ {seen machine control shown}, kept seen machine control →
    (step limits machine control).Halts →
    shown.Closes (step limits machine control).machine → property seen shown

namespace Sustained

variable {limits : Limits} {lines : List Text} {kept : List Snapshot → Machine → Control → Prop}
  {property : List Snapshot → Snapshot → Prop} {seen shots : List Snapshot}

/-- The first snapshot has the property, and the later ones have it with it in front of them. -/
theorem throughout_cons {shown : Snapshot} {seen : List Snapshot} (first : property seen shown)
    (later : Snapshot.Throughout (fun before => property (seen ++ [shown] ++ before)) shots) :
    Snapshot.Throughout (fun before => property (seen ++ before)) (shown :: shots) := by
  intro before other within
  cases before with
  | nil =>
    obtain ⟨same, _⟩ := List.cons_prefix_cons.mp within
    rw [same, List.append_nil]
    exact first
  | cons head before =>
    obtain ⟨same, within⟩ := List.cons_prefix_cons.mp within
    have found := later before other within
    rwa [same, List.append_cons]

/-- A run that ends without a change shows at most its conclusion. -/
theorem throughout_of_end {ending : Ending} {machine : Machine} {control : Control}
    (sustained : Sustained limits lines kept property) (keeps : kept seen machine control)
    (halts : (step limits machine control).Halts)
    (ends : ending.machine = (step limits machine control).machine) :
    Snapshot.Throughout (fun before => property (seen ++ before)) (ending.allShots lines []) := by
  rw [Ending.allShots, List.nil_append]
  cases concluded : ending.conclusion? lines with
  | none =>
    intro before shown within
    simp at within
  | some conclusion =>
    have closes := Ending.closes_of_conclusion concluded
    rw [ends] at closes
    apply throughout_cons (sustained.ends keeps halts closes)
    intro before shown within
    simp at within

theorem throughout_of_course {cancels : Snapshot → Bool} {machine : Machine} {control : Control}
    {ending : Ending} (sustained : Sustained limits lines kept property)
    (course : Course limits cancels machine control shots ending)
    (keeps : kept seen machine control) :
    Snapshot.Throughout (fun before => property (seen ++ before))
      (ending.allShots lines shots) := by
  induction course generalizing seen with
  | silent goes rest ih => exact ih (sustained.silent keeps goes)
  | shown goes kept rest ih =>
    obtain ⟨first, keeps⟩ := sustained.shown keeps goes
    exact throughout_cons first (ih keeps)
  | cancelled goes stopped =>
    obtain ⟨first, keeps⟩ := sustained.shown keeps goes
    apply throughout_cons first
    intro before shown within
    simp [Ending.conclusion?] at within
  | finished ends | faulted ends | broken ends =>
    apply sustained.throughout_of_end keeps
    · intro event after reached goes
      cases ends.symm.trans goes
    · rw [ends]
      rfl

/-- Whatever the observer of a script has seen has the property. -/
theorem throughout_of_observed {cancels : Snapshot → Bool} {engine : Engine} {script : Text}
    {speed : Option Value}
    (sustained : Sustained engine.limits (Text.lines script) kept property)
    (observed : Observed cancels engine (.unstarted script speed) seen) :
    Snapshot.Throughout property seen := by
  obtain rfl | ⟨shots, ending, course, begins⟩ := Engine.isPrefix_of_observed observed
  · intro before shown within
    simp at within
  · intro before shown within
    have all := sustained.throughout_of_course course sustained.begins
    exact all before shown (within.trans begins)

end Sustained

end StepScript

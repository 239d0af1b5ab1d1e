import StepScript.Proofs.Block
import StepScript.Proofs.Run.Operation

/-!
# Where a run stands

The lines that a run has visited outside of loops and those that are still ahead of it make one
list, its timeline.  A visit moves a line from one side to the other, and everything that is passed
leaves the list, so that a step never adds a line nor puts two in another order (`step_timeline`).
A step also comes only to lines that its control point knows (`step_indices`).
-/

namespace StepScript

/-- The line of an entry that a visit outside of loops has left. -/
def LogEntry.index? : LogEntry → Option Nat
  | .line index _ => some index
  | _ => none

/-- The lines visited outside of loops, in the order of the visits. -/
def Machine.visited (machine : Machine) : List Nat :=
  machine.log.filterMap LogEntry.index?

namespace Control

/-- The lines outside of loops that are ahead. -/
def pending : Control → List Nat
  | .top rest => rest.map Line.index
  | .test _ _ after | .body _ _ after => after.map Line.index

/-- The lines that a control point knows: those of the loop, and those ahead. -/
def indices : Control → List Nat
  | .top rest => rest.map Line.index
  | .test frame _ after => frame.header :: (frame.body ++ after).map Line.index
  | .body frame rest after => frame.header :: (frame.body ++ rest ++ after).map Line.index

end Control

namespace Step

def machine : Step → Machine
  | .go _ machine _ | .finish machine | .fault machine _ | .breakdown machine _ => machine

/-- The lines that are ahead after a step. -/
def pending : Step → List Nat
  | .go _ _ control => control.pending
  | .finish _ | .fault _ _ | .breakdown _ _ => []

/-- A step comes only to given lines: it goes on to a control point that knows no other ones, and
a change is shown at one of them. -/
def ComesTo (indices : List Nat) : Step → Prop
  | .go event machine control =>
    control.indices ⊆ indices ∧ (event.isSome → ∃ index ∈ indices, machine.cursor = some index)
  | .finish _ | .fault _ _ | .breakdown _ _ => True

end Step

section Judged

variable {limits : Limits} {machine : Machine} {line : Line} {more behind : List Line}
  {condition : Text} {value : Value}

theorem Step.Judged.behind_isSuffix
    (judged : Judged limits machine line more condition value behind) : behind <:+ more :=
  judged.behind_eq ▸ List.dropWhile_suffix _

theorem Step.Judged.behind_subset
    (judged : Judged limits machine line more condition value behind) : behind ⊆ line :: more :=
  List.subset_cons_of_subset _ judged.behind_isSuffix.subset

theorem Step.Judged.rest_subset {next : Line} {rest : List Line}
    (judged : Judged limits machine line more condition value (next :: rest)) :
    rest ⊆ line :: more :=
  List.Subset.trans (List.subset_cons_self _ _) judged.behind_subset

end Judged

/-! ## Timelines -/

namespace Place

variable (place : Place) {machine : Machine} {line : Line} {more rest : List Line}

theorem timeline_visit (machine : Machine) (line : Line) (more : List Line) :
    (machine.visit place.inBody line).visited ++ (place.control more).pending =
      machine.visited ++ (place.control (line :: more)).pending := by
  cases place <;>
    simp [Machine.visited, Machine.log, Machine.visit, inBody, LogEntry.index?, control,
      Control.pending]

/-- Passing lines takes them from those ahead. -/
theorem pending_sublist (passed : rest.Sublist more) :
    (place.control rest).pending.Sublist (place.control more).pending := by
  cases place with
  | top => exact passed.map _
  | body frame after => exact List.Sublist.refl _

theorem timeline_visit_passing (passed : rest.Sublist more) :
    ((machine.visit place.inBody line).visited ++ (place.control rest).pending).Sublist
      (machine.visited ++ (place.control (line :: more)).pending) :=
  place.timeline_visit machine line more ▸
    (List.Sublist.refl _).append (place.pending_sublist passed)

/-- The line in front is visited, and nothing is ahead any more. -/
theorem timeline_visit_last :
    ((machine.visit place.inBody line).visited ++ []).Sublist
      (machine.visited ++ (place.control (line :: more)).pending) :=
  place.timeline_visit machine line more ▸ (List.Sublist.refl _).append (List.nil_sublist _)

/-- The consequence of a condition is visited or passed, and lines behind it may be passed. -/
theorem timeline_arrive (holds : Bool) (passed : rest.Sublist more) :
    ((machine.arrive holds place line).visited ++ (place.control rest).pending).Sublist
      (machine.visited ++ (place.control (line :: more)).pending) := by
  cases holds with
  | true => exact place.timeline_visit_passing passed
  | false => exact (List.Sublist.refl _).append (place.pending_sublist (passed.cons line))

end Place

variable {limits : Limits} {machine : Machine} {control : Control} {result : Step}

theorem step_timeline (steps : step limits machine control = result) :
    (result.machine.visited ++ result.pending).Sublist (machine.visited ++ control.pending) := by
  cases Step.rule_of_step steps with
  | finish => exact List.Sublist.refl _
  | unreadable => exact (List.Sublist.refl _).append (List.nil_sublist _)
  | @silent place line =>
    exact (List.Sublist.refl _).append (place.pending_sublist (List.sublist_cons_self _ _))
  | exhausted | declarationFault | declarationBreakdown | assignmentFault | conditionFault
  | consequenceUnreadable => exact Place.timeline_visit_last _
  | loopUnclosed | loopFault => exact Place.timeline_visit_last .top
  | ignored => exact Place.timeline_visit_passing _ (List.Sublist.refl _)
  | declared classified within declared =>
    rcases Machine.declare_ok declared with ⟨value, constants, _, rfl⟩
    exact Place.timeline_visit_passing _ (List.Sublist.refl _)
  | assigned classified within assigned =>
    rcases Machine.assign_ok assigned with ⟨value, rfl⟩
    exact Place.timeline_visit_passing _ (List.Sublist.refl _)
  | conditionLast => exact Place.timeline_visit_passing _ (List.nil_sublist _)
  -- Two visits: first that of the consequence, then that of the condition in front of it.
  | consequenceExhausted judged | consequenceFault judged =>
    exact (Place.timeline_visit_last _).trans
      (Place.timeline_visit_passing _ judged.behind_isSuffix.sublist)
  | consequenceAssigned judged consequence holds withinNext assigned =>
    rcases Machine.assign_ok assigned with ⟨value, rfl⟩
    exact (Place.timeline_visit_passing _ (List.Sublist.refl _)).trans
      (Place.timeline_visit_passing _ judged.behind_isSuffix.sublist)
  | consequencePassed judged =>
    exact (Place.timeline_arrive _ _ (List.Sublist.refl _)).trans
      (Place.timeline_visit_passing _ judged.behind_isSuffix.sublist)
  | consequenceBlock judged consequence withinNext extracted =>
    exact (Place.timeline_arrive .top _ (Block.after_isSuffix extracted).sublist).trans
      (Place.timeline_visit_passing .top judged.behind_isSuffix.sublist)
  | consequenceUnclosed judged =>
    exact (Place.timeline_arrive .top _ (List.nil_sublist _)).trans
      (Place.timeline_visit_passing .top judged.behind_isSuffix.sublist)
  | loopEntered classified within extracted started =>
    rcases Machine.enterLoop_ok started with ⟨rfl, rfl⟩
    exact Place.timeline_visit_passing .top (Block.after_isSuffix extracted).sublist
  | testFault | roundsExhausted | roundFault | incrementFault =>
    exact (List.Sublist.refl _).append (List.nil_sublist _)
  | loopLeft => exact List.Sublist.refl _
  | roundBegun goesOn within begun =>
    rw [Machine.beginRound_ok begun]
    exact List.Sublist.refl _
  | incremented ended =>
    rw [Machine.endRound_ok ended]
    exact List.Sublist.refl _

/-! ## Lines that a step comes to -/

namespace Place

variable (place : Place) {line : Line} {more rest : List Line}

/-- The control point in front of fewer lines knows fewer lines. -/
theorem indices_subset (passed : rest ⊆ more) :
    (place.control rest).indices ⊆ (place.control more).indices := by
  cases place with
  | top => exact List.map_subset _ passed
  | body frame after =>
    refine List.cons_subset_cons _ (List.map_subset _ ?_)
    simp only [List.append_assoc, List.append_subset, List.subset_append_left, true_and]
    exact ⟨List.subset_append_of_subset_right _ (List.subset_append_of_subset_left _ passed),
      List.subset_append_of_subset_right _ (List.subset_append_right _ _)⟩

/-- A control point knows the lines in front of which it stands. -/
theorem index_mem_indices (member : line ∈ more) : line.index ∈ (place.control more).indices := by
  cases place with
  | top => exact List.mem_map_of_mem member
  | body frame after =>
    exact List.mem_cons_of_mem _ (List.mem_map_of_mem (by simp [member]))

end Place

/-- A step comes only to lines that its control point knows. -/
theorem step_indices (steps : step limits machine control = result) :
    result.ComesTo control.indices := by
  cases Step.rule_of_step steps with
  | silent | ignored => exact ⟨Place.indices_subset _ (List.subset_cons_self _ _), by simp⟩
  | declared classified within declared =>
    rcases Machine.declare_ok declared with ⟨value, constants, _, rfl⟩
    exact ⟨Place.indices_subset _ (List.subset_cons_self _ _),
      fun _ => ⟨_, Place.index_mem_indices _ List.mem_cons_self, rfl⟩⟩
  | assigned classified within assigned =>
    rcases Machine.assign_ok assigned with ⟨value, rfl⟩
    exact ⟨Place.indices_subset _ (List.subset_cons_self _ _),
      fun _ => ⟨_, Place.index_mem_indices _ List.mem_cons_self, rfl⟩⟩
  | conditionLast => exact ⟨Place.indices_subset _ (List.nil_subset _), by simp⟩
  | consequenceAssigned judged consequence holds withinNext assigned =>
    rcases Machine.assign_ok assigned with ⟨value, rfl⟩
    have next := judged.behind_subset List.mem_cons_self
    exact ⟨Place.indices_subset _ judged.rest_subset,
      fun _ => ⟨_, Place.index_mem_indices _ next, rfl⟩⟩
  | consequencePassed judged =>
    exact ⟨Place.indices_subset _ judged.rest_subset, by simp⟩
  | consequenceBlock judged consequence withinNext extracted =>
    have after := (Block.after_isSuffix extracted).subset
    exact ⟨Place.indices_subset .top (List.Subset.trans after judged.rest_subset), by simp⟩
  | @loopEntered line more header block entered frame value classified within extracted started =>
    rcases Machine.enterLoop_ok started with ⟨rfl, rfl⟩
    refine ⟨?_, by simp⟩
    have after := List.subset_cons_of_subset line (Block.after_isSuffix extracted).subset
    refine List.cons_subset.mpr ⟨List.mem_cons_self, ?_⟩
    rw [List.map_append]
    refine List.append_subset.mpr ⟨?_, List.map_subset _ after⟩
    intro index member
    rcases List.mem_map.mp member with ⟨statement, inside, rfl⟩
    exact Block.index_of_mem_body extracted statement inside
  | loopLeft =>
    refine ⟨?_, by simp⟩
    exact List.subset_cons_of_subset _ (List.map_subset _ (List.subset_append_right _ _))
  | roundBegun goesOn within begun =>
    rw [Machine.beginRound_ok begun]
    refine ⟨List.cons_subset_cons _ (List.map_subset _ ?_), fun _ => ⟨_, List.mem_cons_self, rfl⟩⟩
    simp [Machine.countRound]
  | incremented ended =>
    rw [Machine.endRound_ok ended]
    refine ⟨List.cons_subset_cons _ (List.map_subset _ ?_), fun _ => ⟨_, List.mem_cons_self, rfl⟩⟩
    simp
  | _ => trivial

/-! ## The log and the count of snapshots -/

/-- A step only adds to the log. -/
theorem step_entries (steps : step limits machine control = result) :
    machine.entries <:+ result.machine.entries := by
  cases Step.rule_of_step steps with
  | declared classified within declared =>
    rcases Machine.declare_ok declared with ⟨value, constants, _, rfl⟩
    exact List.suffix_cons _ _
  | assigned classified within assigned =>
    rcases Machine.assign_ok assigned with ⟨value, rfl⟩
    exact List.suffix_cons _ _
  | consequenceAssigned judged consequence holds withinNext assigned =>
    rcases Machine.assign_ok assigned with ⟨value, rfl⟩
    exact (List.suffix_cons _ _).trans (List.suffix_cons _ _)
  | consequencePassed | consequenceBlock | consequenceUnclosed =>
    exact (List.suffix_cons _ machine.entries).trans
      (Machine.arrive_entries _ _ _ (machine.visit _ _))
  | consequenceExhausted | consequenceFault =>
    exact (List.suffix_cons _ _).trans (List.suffix_cons _ _)
  | loopEntered classified within extracted started =>
    rcases Machine.enterLoop_ok started with ⟨rfl, rfl⟩
    exact List.suffix_cons _ _
  | roundBegun goesOn within begun =>
    rw [Machine.beginRound_ok begun]
    exact List.suffix_rfl
  | incremented ended =>
    rw [Machine.endRound_ok ended]
    exact List.suffix_rfl
  | finish | unreadable | silent | testFault | loopLeft | roundsExhausted | roundFault
  | incrementFault => exact List.suffix_rfl
  | _ => exact List.suffix_cons _ _

theorem step_taken (steps : step limits machine control = result) :
    result.machine.taken = machine.taken := by
  cases Step.rule_of_step steps with
  | declared classified within declared =>
    rcases Machine.declare_ok declared with ⟨value, constants, _, rfl⟩
    rfl
  | assigned classified within assigned =>
    rcases Machine.assign_ok assigned with ⟨value, rfl⟩
    rfl
  | consequenceAssigned judged consequence holds withinNext assigned =>
    rcases Machine.assign_ok assigned with ⟨value, rfl⟩
    rfl
  | consequencePassed | consequenceBlock | consequenceUnclosed =>
    exact Machine.arrive_taken _ _ _ _
  | loopEntered classified within extracted started =>
    rcases Machine.enterLoop_ok started with ⟨rfl, rfl⟩
    rfl
  | roundBegun goesOn within begun =>
    rw [Machine.beginRound_ok begun]
    rfl
  | incremented ended =>
    rw [Machine.endRound_ok ended]
    rfl
  | _ => rfl

end StepScript

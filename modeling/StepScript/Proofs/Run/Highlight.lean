import StepScript.Proofs.Run.ArrayView

/-!
# The cell that is highlighted

A round of a loop chooses its highlight when it begins: the cell of the shown array that the counter
addresses.  The highlight then stays until the round ends, whatever array is shown by then
(`Snapshot.Highlights.lit`).  So it addresses a cell of the shown array throughout a run exactly if
it does so wherever an array is written (`Engine.run_highlights`), which a round can spoil
(`Engine.not_highlightsCell_of_declaration`).
-/

namespace StepScript

namespace Snapshot

/-- The highlight addresses a cell of the array that is shown, where there are both. -/
def HighlightsCell (shown : Snapshot) : Prop :=
  ∀ place name cells, shown.highlight = some place → shown.array = some (name, cells) →
    place < cells.length

/-- The cell that a round highlights when it begins: the number that its counter holds, if it is a
natural one and, where an array is shown, addresses a cell of it. -/
def boundCell? (lines : List Text) (shown : Snapshot) : Option Nat :=
  match (shown.written? lines).bind fun name => shown.value? name with
  | some (.number value) =>
    (Number.natural? value).filter fun place => shown.array.all fun view => place < view.2.length
  | _ => none

/-- The cell that stays highlighted behind some snapshots, oldest first.  At the end of a round it
is given up. -/
def keptCell? (shots : List Snapshot) : Option Nat :=
  shots.getLast?.bind fun last => if last.event = .increment then none else last.highlight

/-- Wherever an array is written, the highlight addresses a cell of it. -/
def WritesFit (lines : List Text) (shots : List Snapshot) : Prop :=
  ∀ shown ∈ shots, (shown.writtenArray? lines).isSome → shown.HighlightsCell

/-- What a snapshot highlights, given those before it. -/
structure Highlights (lines : List Text) (before : List Snapshot) (shown : Snapshot) : Prop where
  lit : shown.highlight =
    match shown.event with
    | .bind => shown.boundCell? lines
    | .failed | .completed => none
    | .declare | .assign | .condition | .increment => keptCell? before
  addresses : WritesFit lines (before ++ [shown]) → shown.HighlightsCell

theorem keptCell?_concat (shots : List Snapshot) (shown : Snapshot) :
    keptCell? (shots ++ [shown]) = if shown.event = .increment then none else shown.highlight := by
  simp [keptCell?]

theorem highlightsCell_of_none {shown : Snapshot} (unlit : shown.highlight = none) :
    shown.HighlightsCell := by
  intro place name cells lit
  simp [unlit] at lit

theorem WritesFit.left {lines : List Text} {before after : List Snapshot}
    (fit : WritesFit lines (before ++ after)) : WritesFit lines before :=
  fun shown member => fit shown (List.mem_append_left after member)

end Snapshot

namespace Machine

/-- The highlight of a machine addresses a cell of the array that it shows. -/
def HighlightFits (machine : Machine) : Prop :=
  ∀ place name cells, machine.highlight = some place → machine.shownArray? = some (name, cells) →
    place < cells.length

variable {machine changed : Machine}

theorem shownArray?_congr (environment : changed.environment = machine.environment)
    (arrayName : changed.arrayName = machine.arrayName) :
    changed.shownArray? = machine.shownArray? := by
  rw [shownArray?_eq, environment, arrayName, ← shownArray?_eq]

theorem highlightFor_eq (value : Float) (machine : Machine) :
    machine.highlightFor value = (Number.natural? value).filter fun place =>
      machine.shownArray?.all fun view => place < view.2.length := by
  unfold highlightFor
  cases Number.natural? value with
  | none => rfl
  | some place => cases machine.shownArray? <;> simp [Option.filter]

/-- A round begins with a cell of the shown array, or with none. -/
theorem highlightFits_of_highlightFor {value : Float}
    (lit : changed.highlight = machine.highlightFor value)
    (shows : changed.shownArray? = machine.shownArray?) : changed.HighlightFits := by
  intro place name cells found view
  rw [lit, highlightFor_eq, Option.filter_eq_some_iff] at found
  obtain ⟨_, fits⟩ := found
  rw [shows] at view
  simpa [view] using fits

/-- Writing another value than an array keeps the cells of the shown array, if it stays shown. -/
theorem HighlightFits.of_write {name : Text} {value : Value} (fits : machine.HighlightFits)
    (lit : changed.highlight = machine.highlight)
    (bound : changed.environment = Environment.bind name value machine.environment)
    (flat : value.isArray = false) (arrayName : changed.arrayName = machine.arrayName) :
    changed.HighlightFits := by
  intro place shown cells found view
  apply fits place shown cells (lit ▸ found)
  rw [shownArray?_eq, arrayName, bound] at view
  rw [shownArray?_eq]
  obtain ⟨noted, designated, held⟩ := Option.bind_eq_some_iff.mp view
  rw [designated, Option.bind_some]
  by_cases same : noted = name
  · rw [same, Environment.find?_bind_self] at held
    cases value <;> simp_all [Value.isArray, Value.cells?]
  · rwa [Environment.find?_bind_of_ne same] at held

end Machine

/-! ## Steps and highlights -/

/-- What the snapshots so far say of the highlight at a control point: there is none outside of
loops, and in a round it is the cell that the last snapshot has left. -/
def Control.Lit (lines : List Text) (seen : List Snapshot) (machine : Machine) : Control → Prop
  | .top _ => machine.highlight = none ∧ Snapshot.keptCell? seen = none
  | .test _ _ _ => Snapshot.keptCell? seen = none
  | .body _ _ _ =>
    machine.highlight = Snapshot.keptCell? seen ∧
      (Snapshot.WritesFit lines seen → machine.HighlightFits)

/-- A machine at a control point of a script, lit as the snapshots so far say. -/
structure Illuminated (lines : List Text) (seen : List Snapshot) (machine : Machine)
    (control : Control) : Prop where
  stands : control.Stands lines machine
  headed : control.Headed lines
  lit : control.Lit lines seen machine

section Step

variable {limits : Limits} {lines : List Text} {seen : List Snapshot} {machine changed : Machine}
  {control reached : Control}

/-- Passing lines leaves the highlight and the shown array. -/
theorem Place.lit_pass {place : Place} {more rest : List Line}
    (lit : (place.control more).Lit lines seen machine)
    (highlight : changed.highlight = machine.highlight)
    (shows : changed.shownArray? = machine.shownArray?) :
    (place.control rest).Lit lines seen changed := by
  cases place with
  | top => exact ⟨highlight.trans lit.1, lit.2⟩
  | body frame after =>
    refine ⟨highlight.trans lit.1, ?_⟩
    intro fit place name cells found view
    exact lit.2 fit place name cells (highlight ▸ found) (shows ▸ view)

@[simp] theorem Machine.arrive_highlight (holds : Bool) (place : Place) (line : Line)
    (machine : Machine) : (machine.arrive holds place line).highlight = machine.highlight := by
  cases holds <;> rfl

/-- A statement that changes a variable keeps the highlight, and its snapshot shows it. -/
theorem Place.lit_write {place : Place} {more rest : List Line} {event : Event}
    (lit : (place.control more).Lit lines seen machine)
    (highlight : changed.highlight = machine.highlight)
    (writes : (Step.go (some event) changed (place.control rest)).Writes lines machine)
    (kind : event = .declare ∨ event = .assign ∨ event = .condition) :
    Snapshot.Highlights lines seen (changed.showing event).2 ∧
      (place.control rest).Lit lines (seen ++ [(changed.showing event).2])
        (changed.showing event).1 := by
  have unended : (changed.showing event).2.event ≠ .increment := by
    intro same
    obtain rfl : event = .increment := same
    simp at kind
  have kept : Snapshot.keptCell? (seen ++ [(changed.showing event).2]) = changed.highlight := by
    rw [Snapshot.keptCell?_concat, if_neg unended]
    rfl
  have same : machine.highlight = Snapshot.keptCell? seen := by
    cases place with
    | top => exact lit.1.trans lit.2.symm
    | body frame after => exact lit.1
  have fits : Snapshot.WritesFit lines (seen ++ [(changed.showing event).2]) →
      changed.HighlightFits := by
    intro fit
    obtain ⟨name, value, written, bound, designated⟩ := writes
    have array : (changed.showing event).2.writtenArray? lines =
        if value.isArray then some name else none := Snapshot.writtenArray?_of_bind written bound
    cases flat : value.isArray with
    | true =>
      -- An array is written here, so the snapshot itself is one of those that fit.
      rw [flat, if_pos rfl] at array
      exact fit _ (List.mem_append_right seen List.mem_cons_self) (by rw [array]; rfl)
    | false =>
      rw [flat, if_neg Bool.false_ne_true] at designated
      cases place with
      | top =>
        intro place name cells found
        rw [highlight, lit.1] at found
        cases found
      | body frame after =>
        exact (lit.2 fit.left).of_write highlight bound flat designated
  constructor
  · constructor
    · have shown : (changed.showing event).2.highlight = Snapshot.keptCell? seen :=
        highlight.trans same
      obtain rfl | rfl | rfl := kind <;> exact shown
    · exact fits
  · cases place with
    | top => exact ⟨highlight.trans lit.1, kept.trans (highlight.trans lit.1)⟩
    | body frame after => exact ⟨kept.symm, fits⟩

/-- A round begins with the cell that its counter addresses. -/
theorem lit_of_begun {header : LoopHeader} {frame : Frame} {value : Float} {after : List Line}
    (holds : frame.Holds lines header) (begun : machine.beginRound frame value = .ok changed)
    (seen : List Snapshot) :
    Snapshot.Highlights lines seen (changed.showing .bind).2 ∧
      (Control.body frame frame.body after).Lit lines (seen ++ [(changed.showing .bind).2])
        (changed.showing .bind).1 := by
  have changed_eq := Machine.beginRound_ok begun
  have stands : (changed.showing .bind).2.line = some frame.header := by
    rw [changed_eq]
    rfl
  have written : (changed.showing .bind).2.written? lines = some frame.counter :=
    Snapshot.written?_of_turn holds rfl stands
  have counts : (changed.showing .bind).2.value? frame.counter = some (.number value) := by
    rw [changed_eq]
    exact Environment.find?_bind_self _ _ _
  have lit : changed.highlight =
      (machine.written frame.counter (.number value)).highlightFor value := by
    rw [changed_eq]
  have shows : changed.shownArray? =
      (machine.written frame.counter (.number value)).shownArray? := by
    rw [changed_eq]
    rfl
  have fits := Machine.highlightFits_of_highlightFor lit shows
  constructor
  · constructor
    · calc changed.highlight
          = (machine.written frame.counter (.number value)).highlightFor value := lit
        _ = (Number.natural? value).filter
              (fun place => changed.shownArray?.all fun view => place < view.2.length) := by
          rw [Machine.highlightFor_eq, shows]
        _ = (changed.showing .bind).2.boundCell? lines := by
          unfold Snapshot.boundCell?
          rw [written, Option.bind_some, counts]
          rfl
    · exact fun _ => fits
  · constructor
    · rw [Snapshot.keptCell?_concat]
      rfl
    · exact fun _ => fits

/-- The end of a round still shows its cell, and gives it up. -/
theorem lit_of_ended {frame : Frame} {value : Float} {after : List Line}
    (lit : (Control.body frame [] after).Lit lines seen machine)
    (ended : machine.endRound frame = .ok (changed, value)) :
    Snapshot.Highlights lines seen (changed.showing .increment).2 ∧
      (Control.test frame value after).Lit lines (seen ++ [(changed.showing .increment).2])
        (changed.showing .increment).1 := by
  have changed_eq := Machine.endRound_ok ended
  have highlight : changed.highlight = machine.highlight := by
    rw [changed_eq]
    rfl
  constructor
  · constructor
    · exact highlight.trans lit.1
    · intro fit
      have bound : changed.environment =
          Environment.bind frame.counter (.number value) machine.environment := by
        rw [changed_eq]
        rfl
      have arrayName : changed.arrayName = machine.arrayName := by
        rw [changed_eq]
        rfl
      exact (lit.2 fit.left).of_write highlight bound rfl arrayName
  · exact Snapshot.keptCell?_concat seen _

/-- A step that nobody sees leaves the highlight as the snapshots say. -/
theorem lit_of_silent (illuminated : Illuminated lines seen machine control)
    (goes : step limits machine control = .go none changed reached) :
    reached.Lit lines seen changed := by
  have lit := illuminated.lit
  cases Step.rule_of_step goes with
  | silent | ignored | conditionLast => exact Place.lit_pass lit rfl rfl
  | @consequencePassed place line next more rest condition value found judged consequence withinNext
      idle flat =>
    apply Place.lit_pass lit
    · exact Machine.arrive_highlight value.truthy place next _
    · exact Machine.shownArray?_congr (Machine.arrive_environment value.truthy place next _)
        (Machine.arrive_arrayName value.truthy place next _)
  | @consequenceBlock line next more rest condition value header block judged consequence withinNext
      extracted =>
    exact ⟨(Machine.arrive_highlight value.truthy .top next _).trans lit.1, lit.2⟩
  | loopEntered => exact lit.2
  | loopLeft => exact ⟨rfl, lit⟩

end Step

/-! ## Runs -/

/-- Every snapshot highlights what the snapshots before it say. -/
theorem sustained_illuminated (limits : Limits) (lines : List Text) :
    Sustained limits lines (Illuminated lines) (Snapshot.Highlights lines) where
  begins :=
    { stands := Control.stands_started lines
      headed := fun frame framed => by cases framed
      lit := ⟨rfl, rfl⟩ }
  silent := by
    intro seen machine control after reached kept goes
    exact
      { stands := (step_stands kept.stands goes).1
        headed := step_headed kept.stands kept.headed goes
        lit := lit_of_silent kept goes }
  shown := by
    intro seen machine control event changed reached kept goes
    have writes := step_writes kept.headed goes
    have lights : Snapshot.Highlights lines seen (changed.showing event).2 ∧
        reached.Lit lines (seen ++ [(changed.showing event).2]) (changed.showing event).1 := by
      cases Step.rule_of_step goes with
      | @declared place line more name expression keyword changed classified within declared =>
        obtain ⟨value, constants, _, rfl⟩ := Machine.declare_ok declared
        exact Place.lit_write kept.lit rfl writes (.inl rfl)
      | assigned classified within assigned =>
        obtain ⟨value, rfl⟩ := Machine.assign_ok assigned
        exact Place.lit_write kept.lit rfl writes (.inr (.inl rfl))
      | consequenceAssigned judged consequence holds withinNext assigned =>
        obtain ⟨value, rfl⟩ := Machine.assign_ok assigned
        exact Place.lit_write kept.lit rfl writes (.inr (.inr rfl))
      | @roundBegun frame value after bound goesOn within begun =>
        obtain ⟨header, holds⟩ := kept.headed frame rfl
        exact lit_of_begun (holds.countRound machine) begun seen
      | incremented ended => exact lit_of_ended kept.lit ended
    exact ⟨lights.1,
      { stands := (step_stands kept.stands goes).1.counted _
        headed := step_headed kept.stands kept.headed goes
        lit := lights.2 }⟩
  ends := by
    intro seen machine control shown kept halts closes
    constructor
    · have ends := closes.endsRun
      cases event : shown.event <;> simp_all [Event.endsRun, closes.highlight]
    · intro _
      exact Snapshot.highlightsCell_of_none closes.highlight

/-- What a run says of its highlights: each snapshot shows the one that the snapshots before it
tell, and all of them address cells of the shown arrays exactly if those do that show an array
written. -/
structure Engine.Highlighted (lines : List Text) (shots : List Snapshot) : Prop where
  throughout : Snapshot.Throughout (Snapshot.Highlights lines) shots
  addresses_iff : (∀ shown ∈ shots, shown.HighlightsCell) ↔ Snapshot.WritesFit lines shots

/-- Where each snapshot highlights what those before it say, only the writes of arrays matter. -/
theorem Engine.Highlighted.of_throughout {lines : List Text} {shots : List Snapshot}
    (throughout : Snapshot.Throughout (Snapshot.Highlights lines) shots) :
    Highlighted lines shots where
  throughout := throughout
  addresses_iff := by
    constructor
    · intro all shown member _
      exact all shown member
    · intro fit shown member
      obtain ⟨before, after, rfl⟩ := List.append_of_mem member
      have split : before ++ shown :: after = before ++ [shown] ++ after := by simp
      apply (throughout before shown ⟨after, split.symm⟩).addresses
      rw [split] at fit
      exact fit.left

/-- A loop with one round, in which an empty array is declared: the snapshots of its run, of which
the second shows the array and still the highlight that the round began with. -/
theorem Engine.run_of_declaringLoop {script : Text} {head statement : Line} {rest : List Line}
    {last : Nat} (lines : numberLines 0 (Text.lines script) = head :: rest)
    (accepted : Dialect.violation? script = none)
    (opens : classify head.text =
      .ok (.loop ⟨['i'], ['0'], ['i'], .less, ['1'], ['+', '+'], 1⟩))
    (extracted : Block.extract head rest = .ok ⟨[statement], last, []⟩)
    (declares : classify statement.text = .ok (.declaration ['a'] ['[', ']'] .letWord)) :
    ∃ ended result, new.run script none (fun _ => false) = (ended, .ok result) ∧
      result.snapshots.map (fun shown => (shown.event, shown.highlight, shown.array)) =
        [(.bind, some 0, none), (.declare, some 0, some (['a'], [])),
          (.increment, some 0, some (['a'], [])), (.completed, none, some (['a'], []))] := by
  let visited := Machine.started.visit false head
  let frame : Frame := ⟨['i'], 0, ['i'], .less, ['1'], 1, [statement], head.index, last, 0⟩
  let round : Frame := { frame with iterations := 1 }
  let bound : Machine :=
    { visited.written ['i'] (.number 0) with frame := some round, highlight := some 0 }
  let declared := ((bound.showing .bind).1.visit true statement).written ['a'] (.array [])
  let changed : Machine :=
    { (declared.showing .declare).1.written ['i'] (.number (0 + 1)) with
      cursor := some head.index }
  have enters : step new.limits .started (.top (head :: rest)) =
      .go none { visited with frame := some frame } (.test frame 0 []) := by
    have within : ¬Step.Exhausted new.limits .started :=
      show ¬(10000 : Int) < (0 + 1 : Nat) by decide
    have started : visited.enterLoop ⟨['i'], ['0'], ['i'], .less, ['1'], ['+', '+'], 1⟩ head.index
      ⟨[statement], last, []⟩ = .ok ({ visited with frame := some frame }, frame, 0) := rfl
    exact Step.step_of_rule (.loopEntered opens within extracted started)
  have begins : step new.limits { visited with frame := some frame } (.test frame 0 []) =
      .go (some .bind) bound (.body round [statement] []) := rfl
  have binds : step new.limits (bound.showing .bind).1 (.body round [statement] []) =
      .go (some .declare) declared (.body round [] []) := by
    have within : ¬Step.Exhausted new.limits (bound.showing .bind).1 :=
      show ¬(10000 : Int) < (1 + 1 : Nat) by decide
    have written : ((bound.showing .bind).1.visit true statement).declare ['a'] ['[', ']']
      .letWord = .ok declared := rfl
    exact Step.step_of_rule
      (@Step.Rule.declared _ _ (.body round []) _ _ _ _ _ _ declares within written)
  have ends : step new.limits (declared.showing .declare).1 (.body round [] []) =
      .go (some .increment) changed (.test round (0 + 1) []) := rfl
  have leaves : step new.limits (changed.showing .increment).1 (.test round (0 + 1) []) =
      .go none (changed.showing .increment).1.leaveLoop (.top []) := rfl
  have course : Course new.limits (fun _ => false) .started
      (.top (numberLines 0 (Text.lines script)))
      [(bound.showing .bind).2, (declared.showing .declare).2, (changed.showing .increment).2]
      (.finished (changed.showing .increment).1.leaveLoop) := by
    rw [lines]
    exact .silent enters (.shown begins rfl (.shown binds rfl (.shown ends rfl
      (.silent leaves (.finished rfl)))))
  have idle : new.isRunning = false := rfl
  obtain ⟨ended, returned⟩ := run_ok_of_course idle accepted course rfl
  exact ⟨ended, _, returned, rfl⟩

theorem Engine.run_of_declaringRound :
    ∃ ended result,
      new.run "for (let i = 0; i < 1; i++) \x7b\nlet a = []\n\x7d".toList none (fun _ => false) =
        (ended, .ok result) ∧
      result.snapshots.map (fun shown => (shown.event, shown.highlight, shown.array)) =
        [(.bind, some 0, none), (.declare, some 0, some (['a'], [])),
          (.increment, some 0, some (['a'], [])), (.completed, none, some (['a'], []))] := by
  have lines : numberLines 0
      (Text.lines "for (let i = 0; i < 1; i++) \x7b\nlet a = []\n\x7d".toList) =
      [⟨0, "for (let i = 0; i < 1; i++) \x7b".toList⟩, ⟨1, "let a = []".toList⟩,
        ⟨2, ['\x7d']⟩] := by cbv
  have accepted : Dialect.violation?
      "for (let i = 0; i < 1; i++) \x7b\nlet a = []\n\x7d".toList = none := by cbv
  have opens : classify "for (let i = 0; i < 1; i++) \x7b".toList =
      .ok (.loop ⟨['i'], ['0'], ['i'], .less, ['1'], ['+', '+'], 1⟩) := by cbv
  have extracted : Block.extract ⟨0, "for (let i = 0; i < 1; i++) \x7b".toList⟩
      [⟨1, "let a = []".toList⟩, ⟨2, ['\x7d']⟩] = .ok ⟨[⟨1, "let a = []".toList⟩], 2, []⟩ := rfl
  exact run_of_declaringLoop lines accepted opens extracted (by cbv)

/-- The highlights of a run, whatever of it an observer has seen and whatever it returns. -/
theorem Engine.run_highlights (engine : Engine) (script : Text) (speed : Option Value)
    (cancels : Snapshot → Bool) :
    (∀ shots, Observed cancels engine (.unstarted script speed) shots →
      Highlighted (Text.lines script) shots) ∧
    ∀ ended result, engine.run script speed cancels = (ended, .ok result) →
      Highlighted (Text.lines script) result.snapshots := by
  have sustained := sustained_illuminated engine.limits (Text.lines script)
  constructor
  · intro shots observed
    exact .of_throughout (sustained.throughout_of_observed observed)
  · intro ended result returned
    exact .of_throughout (sustained.throughout_of_observed (observed_of_run returned))

/-- The snapshots of a round that declares an empty array highlight what those before them say. -/
theorem Engine.run_highlights_of_declaration :
    ∃ ended result,
      new.run "for (let i = 0; i < 1; i++) \x7b\nlet a = []\n\x7d".toList none (fun _ => false) =
        (ended, .ok result) ∧
      Highlighted (Text.lines "for (let i = 0; i < 1; i++) \x7b\nlet a = []\n\x7d".toList)
        result.snapshots := by
  obtain ⟨ended, result, returned, _⟩ := run_of_declaringRound
  exact ⟨ended, result, returned, (run_highlights new _ none _).2 ended result returned⟩

/-- A round that declares an empty array: from the declaration on, the highlight addresses a cell
that the shown array does not have. -/
theorem Engine.not_highlightsCell_of_declaration :
    ∃ ended result,
      new.run "for (let i = 0; i < 1; i++) \x7b\nlet a = []\n\x7d".toList none (fun _ => false) =
        (ended, .ok result) ∧
      ∃ shown ∈ result.snapshots, ¬shown.HighlightsCell := by
  obtain ⟨ended, result, returned, shows⟩ := run_of_declaringRound
  have second : (.declare, some 0, some (['a'], [])) ∈
      result.snapshots.map (fun shown => (shown.event, shown.highlight, shown.array)) := by
    rw [shows]
    exact List.mem_cons_of_mem _ List.mem_cons_self
  obtain ⟨shown, member, fields⟩ := List.mem_map.mp second
  obtain ⟨_, lit, view⟩ : shown.event = .declare ∧ shown.highlight = some 0 ∧
      shown.array = some (['a'], []) := by simpa using fields
  refine ⟨ended, result, returned, shown, member, ?_⟩
  intro addresses
  exact absurd (addresses 0 ['a'] [] lit view) (Nat.not_lt_zero 0)

end StepScript

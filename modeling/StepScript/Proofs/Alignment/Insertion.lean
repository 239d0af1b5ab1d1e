import StepScript.Proofs.Alignment.Block
import StepScript.Proofs.Alignment.Run

/-!
# Unrecognized lines

A line that is not recognized and holds no brace changes nothing that a run shows but the numbers of
the lines behind it, wherever it is inserted, as long as no condition waits there
(`Engine.run_inserted`).
-/

namespace StepScript

/-- Where a line stands behind an insertion at a position. -/
def placeBehind (position index : Nat) : Nat :=
  if index < position then index else index + 1

/-- Each line stands for itself, at its place behind an insertion. -/
def Alignment.insertion (position : Nat) : Alignment where
  stands index other := other = placeBehind position index
  extra := true

/-- Snapshots that show the same, with the lines at their places. -/
structure Snapshot.Moved (place : Nat → Nat) (shown other : Snapshot) : Prop
    extends Agrees shown other where
  line : other.line = shown.line.map place

/-- Results that show the same and end alike, with the lines at their places. -/
structure RunResult.Moved (place : Nat → Nat) (result other : RunResult) : Prop where
  snapshots : List.Forall₂ (Snapshot.Moved place) result.snapshots other.snapshots
  outcome : result.outcome.Agrees other.outcome

theorem RunResult.Aligns.moved {position : Nat} {result other : RunResult}
    (aligns : result.Aligns (.insertion position) other) :
    result.Moved (placeBehind position) other where
  snapshots := by
    apply aligns.snapshots.imp
    intro shown otherShown shows
    refine ⟨shows.toAgrees, ?_⟩
    have line := shows.line
    generalize shown.line = place at line ⊢
    generalize otherShown.line = otherPlace at line ⊢
    cases line with
    | none => rfl
    | some stands => exact congrArg some stands
  outcome := aligns.outcome

theorem placeBehind_injective (position : Nat) : Function.Injective (placeBehind position) := by
  intro index other same
  unfold placeBehind at same
  split at same <;> split at same <;> omega

theorem fixes_insertion (position index : Nat) :
    (Alignment.insertion position).Fixes index (placeBehind position index) := by
  intro source target stands
  rw [stands]
  exact (placeBehind_injective position).eq_iff.symm

/-- A line is inserted between lines of a script, behind which no condition waits. -/
theorem woven_inserted {front back : List Text} {text raw : Text}
    (unrecognized : classify text = .ok (.unrecognized raw)) (unbraced : Block.Unbraced text)
    (free : ∀ line, (front.filter fun line => !isBraceOnly line).getLast? = some line →
      mayAwait line = false) :
    Woven (.insertion front.length) false (numberLines 0 (front ++ back))
      (numberLines 0 (front ++ text :: back)) := by
  have stripped : Block.Unbraced (stripStatement text) :=
    ⟨fun inside => unbraced.1 ((stripStatement_isInfix text).subset inside),
      fun inside => unbraced.2 ((stripStatement_isInfix text).subset inside)⟩
  have behind : Woven (.insertion front.length) false (numberLines front.length back)
      (numberLines (front.length + 1) back) := by
    have same (index : Nat) :
        front.length + 1 + index = placeBehind front.length (front.length + index) := by
      unfold placeBehind
      split <;> omega
    rw [← List.append_nil (numberLines front.length back),
      ← List.append_nil (numberLines (front.length + 1) back)]
    refine Woven.of_same back (fun index _ => same index) (fun index _ => ?_) .nil
    rw [same index]
    exact fixes_insertion front.length (front.length + index)
  have awaited : awaitedBehind false front = false := by
    rw [awaitedBehind_eq]
    cases last : (front.filter fun line => !isBraceOnly line).getLast? with
    | none => rfl
    | some line => exact free line last
  rw [numberLines_append, numberLines_append, Nat.zero_add]
  have same (index : Nat) (inside : index < front.length) :
      0 + index = placeBehind front.length (0 + index) := by
    unfold placeBehind
    rw [if_pos (by omega)]
  refine Woven.of_same front same (fun index inside => ?_) ?_
  · have fixes := fixes_insertion front.length (0 + index)
    rwa [← same index inside] at fixes
  · rw [awaited]
    exact .extra rfl unrecognized stripped behind

/-- A line that is not recognized and holds no brace is inserted into a script.  The last line in
front of it that is more than a brace neither holds a condition nor anything behind an opening
brace.  Then both runs show the same, with the lines at their places, and end alike, unless the
visits of the inserted line lead to the limit of steps. -/
theorem Engine.run_inserted {engine other ended otherEnded : Engine} {script otherScript : Text}
    {front back : List Text} {text raw : Text} {speed otherSpeed : Option Value}
    {result otherResult : RunResult} (lines : Text.lines script = front ++ back)
    (linesToo : Text.lines otherScript = front ++ text :: back)
    (unrecognized : classify text = .ok (.unrecognized raw)) (unbraced : Block.Unbraced text)
    (free : ∀ line, (front.filter fun line => !isBraceOnly line).getLast? = some line →
      mayAwait line = false)
    (limits : other.limits = engine.limits) (accepted : Dialect.violation? script = none)
    (acceptedToo : Dialect.violation? otherScript = none)
    (returned : engine.run script speed (fun _ => false) = (ended, .ok result))
    (returnedToo : other.run otherScript otherSpeed (fun _ => false) =
      (otherEnded, .ok otherResult))
    (unlimited : otherResult.outcome.report.map Report.code ≠ some .stepLimit) :
    result.Moved (placeBehind front.length) otherResult := by
  have aligned : Aligned (.insertion front.length) false false
      (numberLines 0 (Text.lines script)) (numberLines 0 (Text.lines otherScript)) := by
    rw [lines, linesToo]
    exact (woven_inserted unrecognized unbraced free).aligned
  exact (run_aligned aligned limits accepted acceptedToo returned returnedToo
    fun _ => unlimited).moved

/-- A word between two declarations. -/
theorem Engine.run_inserted_of_word :
    Text.lines "let a = []\nlet b = []".toList = ["let a = []".toList] ++ ["let b = []".toList] ∧
    Text.lines "let a = []\nwait\nlet b = []".toList =
      ["let a = []".toList] ++ "wait".toList :: ["let b = []".toList] ∧
    classify "wait".toList = .ok (.unrecognized "wait".toList) ∧
    Block.Unbraced "wait".toList ∧
    (∀ line, (["let a = []".toList].filter fun line => !isBraceOnly line).getLast? = some line →
      mayAwait line = false) ∧
    ∃ ended otherEnded result otherResult,
      new.run "let a = []\nlet b = []".toList none (fun _ => false) = (ended, .ok result) ∧
      new.run "let a = []\nwait\nlet b = []".toList none (fun _ => false) =
        (otherEnded, .ok otherResult) ∧
      otherResult.outcome.report.map Report.code ≠ some .stepLimit ∧
      result.snapshots.map Snapshot.line = [some 0, some 1, none] ∧
      otherResult.snapshots.map Snapshot.line = [some 0, some 2, none] ∧
      result.Moved (placeBehind 1) otherResult := by
  let first := (Machine.started.visit false ⟨0, "let a = []".toList⟩).written ['a'] (.array [])
  let second := ((first.showing .declare).1.visit false ⟨1, "let b = []".toList⟩).written ['b']
    (.array [])
  let passed := (first.showing .declare).1.visit false ⟨1, "wait".toList⟩
  let last := (passed.visit false ⟨2, "let b = []".toList⟩).written ['b'] (.array [])
  have lines : Text.lines "let a = []\nlet b = []".toList =
      ["let a = []".toList] ++ ["let b = []".toList] := by cbv
  have linesToo : Text.lines "let a = []\nwait\nlet b = []".toList =
      ["let a = []".toList] ++ "wait".toList :: ["let b = []".toList] := by cbv
  have unrecognized : classify "wait".toList = .ok (.unrecognized "wait".toList) := by cbv
  have unbraced : Block.Unbraced "wait".toList := by decide
  have free : ∀ line, (["let a = []".toList].filter fun line => !isBraceOnly line).getLast? =
      some line → mayAwait line = false := by
    have spoken : (["let a = []".toList].filter fun line => !isBraceOnly line).getLast? =
        some "let a = []".toList := by cbv
    intro line found
    cases spoken.symm.trans found
    cbv
  have course : Course new.limits (fun _ => false) .started
      (.top (numberLines 0 (Text.lines "let a = []\nlet b = []".toList)))
      [(first.showing .declare).2, (second.showing .declare).2]
      (.finished (second.showing .declare).1) := by
    have declares : step new.limits .started
        (.top (numberLines 0 (Text.lines "let a = []\nlet b = []".toList))) =
        .go (some .declare) first (.top [⟨1, "let b = []".toList⟩]) := by cbv
    have declaresToo : step new.limits (first.showing .declare).1
        (.top [⟨1, "let b = []".toList⟩]) = .go (some .declare) second (.top []) := by cbv
    exact .shown declares rfl (.shown declaresToo rfl (.finished rfl))
  have otherCourse : Course new.limits (fun _ => false) .started
      (.top (numberLines 0 (Text.lines "let a = []\nwait\nlet b = []".toList)))
      [(first.showing .declare).2, (last.showing .declare).2]
      (.finished (last.showing .declare).1) := by
    have declares : step new.limits .started
        (.top (numberLines 0 (Text.lines "let a = []\nwait\nlet b = []".toList))) =
        .go (some .declare) first
          (.top [⟨1, "wait".toList⟩, ⟨2, "let b = []".toList⟩]) := by cbv
    have passes : step new.limits (first.showing .declare).1
        (.top [⟨1, "wait".toList⟩, ⟨2, "let b = []".toList⟩]) =
        .go none passed (.top [⟨2, "let b = []".toList⟩]) := by cbv
    have declaresToo : step new.limits passed (.top [⟨2, "let b = []".toList⟩]) =
        .go (some .declare) last (.top []) := by cbv
    exact .shown declares rfl (.silent passes (.shown declaresToo rfl (.finished rfl)))
  have accepted : Dialect.violation? "let a = []\nlet b = []".toList = none := by cbv
  have acceptedToo : Dialect.violation? "let a = []\nwait\nlet b = []".toList = none := by cbv
  have idle : new.isRunning = false := rfl
  obtain ⟨ended, returned⟩ := run_ok_of_course idle accepted course rfl
  obtain ⟨otherEnded, returnedToo⟩ := run_ok_of_course idle acceptedToo otherCourse rfl
  have unlimited : Outcome.completed.report.map Report.code ≠ some .stepLimit := by decide
  exact ⟨lines, linesToo, unrecognized, unbraced, free, ended, otherEnded, _, _, returned,
    returnedToo, unlimited, rfl, rfl,
    run_inserted lines linesToo unrecognized unbraced free rfl accepted acceptedToo returned
      returnedToo unlimited⟩

end StepScript

import StepScript.Proofs.Statement.Compound

/-!
# Assignments to cells

An assignment to a cell looks for the cell with the value of its index, and so does an expression
that reads the cell.  The assignment therefore succeeds exactly where the cell can be read, and
whoever reads the array afterwards finds the number in that cell and the old contents in the others
(`assign_cell`).
-/

namespace StepScript

open StepScript.Lexer StepScript.Parser StepScript.Expr

def cellText (name index : Text) : Text :=
  name ++ '[' :: index ++ [']']

/-- What the cell holds that an index denotes. -/
def cell? (cells : List Value) (position : Value) : Option Value := do
  cells[← place? cells position]?

section Cells

variable {cells updated : List Value} {position : Value} {place : Nat}

theorem lt_of_place? (found : place? cells position = some place) : place < cells.length := by
  simp only [place?, Option.bind_eq_bind, Option.bind_eq_some_iff,
    Option.filter_eq_some_iff] at found
  rcases found with ⟨index, -, -, inside⟩
  simpa using inside

/-- Which cells can be addressed hangs on the length of the array alone. -/
theorem place?_congr (same : updated.length = cells.length) (position : Value) :
    place? updated position = place? cells position := by
  simp only [place?, same]

theorem cell?_of_place? (found : place? cells position = some place) :
    cell? cells position = cells[place]? := by
  rw [cell?, found]
  rfl

/-- A cell that is replaced is read at every index that denotes it, and at no other. -/
theorem cell?_set (found : place? cells position = some place) (value other : Value) :
    cell? (cells.set place value) other =
      if place? cells other = place? cells position then some value else cell? cells other := by
  have inside := lt_of_place? found
  rw [cell?, place?_congr List.length_set, found]
  cases denoted : place? cells other with
  | none => simp [cell?, denoted]
  | some place' =>
    rw [cell?_of_place? denoted]
    by_cases same : place' = place
    · simp [same, inside]
    · simp [same, List.getElem?_set_ne (Ne.symm same)]

end Cells

/-- The text of a cell has the value that the cell holds at the value of the index. -/
theorem Operand.agrees_cellText {environment : Environment} {index : Text} {position : Value}
    (indexed : Operand environment index position) (name : Identifier) {cells : List Value}
    (array : Environment.find? name.text environment = some (.array cells)) :
    Agrees (evaluateText (cellText name.text index) environment) (cell? cells position) := by
  rcases indexed.exists_cell name array with ⟨tree, spells, uncommented, plain, shallow, found⟩
  rw [cell?, ← found]
  refine (spells.mono (by decide) le_rfl).agrees (by decide) ?_ ?_ (by simp) plain
    (by omega) environment
  · rintro _ ⟨⟩
    exact (plain_of_isWord (Identifier.isWord_of_mem name.first_mem)).1
  · refine Form.stripStatement_eq ?_ uncommented ?_
    · have visible := isBlank_of_isSolid (Identifier.isSolid_of_mem name.first_mem)
      exact List.dropWhile_cons_of_neg (by simp [visible])
    · exact Text.dropEnd_concat (by decide) _

/-- A number has been written to a cell of an array: the array keeps its length, reading it gives
the number at this index and the old contents at the others, and no other variable is changed. -/
structure WritesCell (name : Identifier) (cells : List Value) (position : Value) (number : Float)
    (before after : Environment) : Prop where
  array : ∃ updated, Environment.find? name.text after = some (.array updated) ∧
    updated.length = cells.length ∧ cell? updated position = some (.number number) ∧
    ∀ other, place? cells other ≠ place? cells position → cell? updated other = cell? cells other
  reads : ∀ index other, Operand after index other →
    Agrees (evaluateText (cellText name.text index) after)
      (if place? cells other = place? cells position then some (.number number)
        else cell? cells other)
  others : ∀ other, other ≠ name.text →
    Environment.find? other after = Environment.find? other before

theorem writesCell_of_place? {name : Identifier} {cells : List Value} {position : Value}
    {place : Nat} (found : place? cells position = some place) (number : Float)
    (environment : Environment) :
    WritesCell name cells position number environment
      (Environment.bind name.text (.array (cells.set place (.number number))) environment) := by
  have array := Environment.find?_bind_self name.text (.array (cells.set place (.number number)))
    environment
  refine ⟨⟨_, array, List.length_set, ?_, ?_⟩, ?_, ?_⟩
  · rw [cell?_set found, if_pos rfl]
  · intro other elsewhere
    rw [cell?_set found, if_neg elsewhere]
  · intro index other indexed
    rw [← cell?_set found]
    exact indexed.agrees_cellText name array
  · intro other distinct
    exact Environment.find?_bind_of_ne distinct _ _

/-- An assignment to a cell is executed with success exactly where the cell can be read.  It then
writes the number to the cell and changes nothing else; otherwise no variable is changed. -/
theorem assign_cell {machine : Machine} {name : Identifier} {cells : List Value}
    {index expression : Text} {position : Value} {number : Float}
    (free : machine.constantLine? name.text = none)
    (array : Environment.find? name.text machine.environment = some (.array cells))
    (indexed : Operand machine.environment index position)
    (evaluated : evaluateText expression machine.environment = .ok (.number number))
    (event : Event) (next : Control) :
    let executed := Step.change event machine
      ((machine.assign name.text expression (some index)).mapError .fault) next
    ((∃ changed, executed = .go (some event) changed next) ↔
        ∃ value, evaluateText (cellText name.text index) machine.environment = .ok value) ∧
      (∀ changed, executed = .go (some event) changed next →
        WritesCell name cells position number machine.environment changed.environment) ∧
      ((¬∃ value, evaluateText (cellText name.text index) machine.environment = .ok value) →
        ∃ cause, executed = .fault machine cause) := by
  intro executed
  have read := indexed.agrees_cellText name array
  have assigned := @Machine.assign_cell_agrees _ _ _ free _ array _ _ indexed.evaluated
    (some number) evaluated
  cases found : place? cells position with
  | some place =>
    have inside := lt_of_place? found
    rw [cell?_of_place? found, List.getElem?_eq_getElem inside] at read
    rw [found] at assigned
    have done : machine.assign name.text expression (some index) =
        .ok (machine.written name.text (.array (cells.set place (.number number)))) := assigned
    have goes : executed = .go (some event)
        (machine.written name.text (.array (cells.set place (.number number)))) next := by
      simp only [executed, done]
      rfl
    refine ⟨⟨fun _ => ⟨_, read⟩, fun _ => ⟨_, goes⟩⟩, ?_,
      fun unreadable => absurd ⟨_, read⟩ unreadable⟩
    rintro changed went
    cases goes.symm.trans went
    exact writesCell_of_place? found number machine.environment
  | none =>
    rw [cell?, found] at read
    rw [found] at assigned
    rcases read with ⟨cause, failed, -⟩
    rcases assigned with ⟨reason, stopped, -⟩
    have faults : executed = .fault machine reason := by
      simp only [executed, stopped]
      rfl
    refine ⟨⟨?_, ?_⟩, ?_, fun _ => ⟨reason, faults⟩⟩
    · rintro ⟨changed, went⟩
      cases faults.symm.trans went
    · rintro ⟨value, readable⟩
      cases failed.symm.trans readable
    · rintro changed went
      cases faults.symm.trans went

/-- The variable `i` is written to the cell that it denotes, which held another number. -/
theorem assign_cell_of_counter :
    let cells : List Value := [.number 5, .number 6, .number 7]
    let machine : Machine := { Machine.initial with
      environment := [(['i'], .number 1), (['a'], .array cells)] }
    let executed := Step.change .assign machine
      ((machine.assign ['a'] ['i'] (some ['i'])).mapError .fault) (.top [])
    ((∃ changed, executed = .go (some .assign) changed (.top [])) ↔
        ∃ value, evaluateText "a[i]".toList machine.environment = .ok value) ∧
      ∀ changed, executed = .go (some .assign) changed (.top []) →
        ∃ name : Identifier, name.text = ['a'] ∧ WritesCell name cells (.number 1) 1
          machine.environment changed.environment := by
  intro cells machine executed
  let name : Identifier := ⟨'a', [], by decide, by simp, by decide⟩
  have evaluated : evaluateText ['i'] machine.environment = .ok (.number 1) := rfl
  have nodes : ∀ tree, parseExpression ['i'] = .ok tree → tree.depth + 2 ≤ nestingLimit := by
    intro tree read
    cases (rfl : parseExpression ['i'] = .ok (.name ⟨0, 1⟩ ['i'])).symm.trans read
    decide
  have indexed : Operand machine.environment ['i'] (.number 1) :=
    ⟨rfl, by simp [OneLine], by decide, by decide, by decide +kernel, nodes, evaluated⟩
  rcases @assign_cell machine name _ _ _ _ _ rfl rfl indexed evaluated .assign (.top []) with
    ⟨succeeds, writes, -⟩
  exact ⟨succeeds, fun changed went => ⟨name, rfl, writes changed went⟩⟩

end StepScript

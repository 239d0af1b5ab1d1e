import StepScript.Proofs.Breakdown
import StepScript.Proofs.Json.Numbers
import StepScript.Proofs.Run.Operation

/-!
# Declaring what can be assigned

A declaration reads literals by itself and leaves everything else to the expressions, so it may
differ from an assignment only where a text is a literal as well as an expression.  A numeral
denotes one number as both.  A text in brackets is read as an array literal; if it is one, the
declared array has the numbers of the assigned one, except for the sign of a zero
(`Machine.declare_of_assigned`).
-/

namespace StepScript

/-- Whether a text is taken for an array literal, as it stands in square brackets. -/
def Literal.IsBracketed (text : Text) : Prop :=
  text.head? = some '[' ∧ text.getLast? = some ']'

instance : DecidablePred Literal.IsBracketed :=
  fun text => inferInstanceAs (Decidable (text.head? = some '[' ∧ text.getLast? = some ']'))

namespace Machine

variable {machine : Machine} {environment : Environment} {name text : Text} {value : Value}

theorem declaredValue_of_evaluateText (plain : ¬Literal.IsBracketed (stripStatement text))
    (evaluated : evaluateText text environment = .ok value) :
    declaredValue text environment = .ok value := by
  simp only [declaredValue, Literal.read?]
  cases numeral : Numeral.read? (stripStatement text) with
  | some found => rw [evaluateText_numeral numeral evaluated]
  | none =>
    rw [Literal.IsBracketed] at plain
    simp only [if_neg plain, evaluated]
    rfl

theorem declaredValue_of_readArray (bracketed : Literal.IsBracketed (stripStatement text))
    (read : Literal.readArray (stripStatement text) = .ok value) :
    declaredValue text environment = .ok value := by
  have numeral := Literal.numeral_eq_none bracketed.1
  rw [Literal.IsBracketed] at bracketed
  simp only [declaredValue, Literal.read?, numeral, if_pos bracketed, read]
  rfl

/-- A variable that is no constant is declared with the value. -/
theorem declare_of_free (free : machine.constantLine? name = none)
    (declared : declaredValue text machine.environment = .ok value) :
    machine.declare name text .letWord = .ok (machine.written name value) := by
  have loose : Keyword.letWord ≠ .constWord := by decide
  simp only [declare, declared, if_neg loose, bind, free]
  rfl

/-- Whatever can be assigned to a variable can be declared as its value, if it is no array literal;
an array literal declares the same numbers, but a zero may lose its sign. -/
theorem declare_of_assigned (free : machine.constantLine? name = none)
    (evaluated : evaluateText text machine.environment = .ok value) :
    machine.assign name text none = .ok (machine.written name value) ∧
    (¬Literal.IsBracketed (stripStatement text) →
      machine.declare name text .letWord = .ok (machine.written name value)) ∧
    ∀ items, Literal.IsBracketed (stripStatement text) →
      Json.read? (stripStatement text) = some (.array items) →
      (∀ item ∈ items, Literal.isNumber item = true) →
      (∀ char ∈ stripStatement text, char ≠ '\n' ∧ char ≠ '\r') →
      Unnamed machine.environment (stripStatement text) →
      ∃ numbers found, value = .array (numbers.map .number) ∧
        machine.declare name text .letWord =
          .ok (machine.written name (.array (found.map .number))) ∧
        List.Forall₂ Number.Matches numbers found := by
  refine ⟨?_, fun plain => declare_of_free free (declaredValue_of_evaluateText plain evaluated), ?_⟩
  · simp only [assign, evaluated, bind, free]
    rfl
  · intro items bracketed read each line unnamed
    rcases readArray_of_evaluateText read each bracketed line unnamed evaluated with
      ⟨numbers, found, same, readToo, matching⟩
    exact ⟨numbers, found, same,
      declare_of_free free (declaredValue_of_readArray bracketed readToo), matching⟩

/-- A sum, and an array with a negative zero. -/
theorem declare_of_assigned_zero :
    (∃ value, initial.declare ['x'] "1 + 2".toList .letWord = .ok (initial.written ['x'] value)) ∧
    ∃ numbers found, initial.assign ['x'] "[5, -0]".toList none =
        .ok (initial.written ['x'] (.array (numbers.map .number))) ∧
      initial.declare ['x'] "[5, -0]".toList .letWord =
        .ok (initial.written ['x'] (.array (found.map .number))) ∧
      List.Forall₂ Number.Matches numbers found := by
  have sum : (evaluateText "1 + 2".toList []).toOption.any (!·.isArray) = true := by
    decide +kernel
  have array : (evaluateText "[5, -0]".toList []).toOption.any Value.isArray = true := by
    decide +kernel
  have stripped : stripStatement "[5, -0]".toList = "[5, -0]".toList := by decide +kernel
  have read : Json.read? (stripStatement "[5, -0]".toList) =
      some (.array [.integer 5, .integer 0]) := by cbv
  rcases Fault.exists_of_any sum with ⟨value, evaluated, -⟩
  rcases Fault.exists_of_any array with ⟨cells, listed, -⟩
  have summed := @declare_of_assigned initial ['x'] _ _ rfl evaluated
  refine ⟨⟨value, summed.2.1 (by decide +kernel)⟩, ?_⟩
  rcases @declare_of_assigned initial ['x'] _ _ rfl listed with ⟨assigned, -, literal⟩
  rcases literal _ (by decide +kernel) read
    (List.forall_mem_cons.mpr ⟨rfl, List.forall_mem_singleton.mpr rfl⟩)
    (by rw [stripped]; simp) (fun _ _ _ => rfl) with ⟨numbers, found, rfl, declared, matching⟩
  exact ⟨numbers, found, assigned, declared, matching⟩

/-- An array with a comma behind its last number can be assigned, but not declared. -/
theorem not_declare_of_assigned :
    ¬∀ (machine : Machine) (name text : Text) (value : Value),
      machine.constantLine? name = none → evaluateText text machine.environment = .ok value →
      machine.declare name text .letWord = .ok (machine.written name value) := by
  intro all
  have array : (evaluateText "[1, 2,]".toList []).toOption.any Value.isArray = true := by
    decide +kernel
  have refused : (initial.declare ['x'] "[1, 2,]".toList .letWord).isOk = false := by
    decide +kernel
  rcases Fault.exists_of_any array with ⟨value, evaluated, -⟩
  rw [all initial ['x'] _ value rfl evaluated] at refused
  cases refused

end Machine

end StepScript

import StepScript.Value

/-!
# Environments

The variables of a run with their values, in the order in which they were first bound.
-/

namespace StepScript

/-- Variables and their values.  A name stands at most once. -/
abbrev Environment := List (Text × Value)

namespace Environment

/-- The value of a variable. -/
def find? (name : Text) : Environment → Option Value
  | [] => none
  | (other, value) :: rest => if other = name then some value else find? name rest

/-- Replaces the value of a variable in its place, or adds the variable at the end. -/
def bind (name : Text) (value : Value) : Environment → Environment
  | [] => [(name, value)]
  | (other, old) :: rest =>
    if other = name then (name, value) :: rest else (other, old) :: bind name value rest

theorem find?_bind_self (name : Text) (value : Value) (environment : Environment) :
    find? name (bind name value environment) = some value := by
  induction environment with
  | nil => simp [bind, find?]
  | cons entry rest ih =>
    rcases entry with ⟨other, old⟩
    by_cases same : other = name <;> simp [bind, find?, same, ih]

theorem find?_bind_of_ne {name other : Text} (distinct : other ≠ name) (value : Value)
    (environment : Environment) :
    find? other (bind name value environment) = find? other environment := by
  induction environment with
  | nil => simp [bind, find?, Ne.symm distinct]
  | cons entry rest ih =>
    rcases entry with ⟨first, old⟩
    by_cases same : first = name
    · simp [bind, find?, same, Ne.symm distinct]
    · simp only [bind, same, if_false, find?, ih]

end Environment

end StepScript

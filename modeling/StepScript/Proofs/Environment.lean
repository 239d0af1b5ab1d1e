import Mathlib
import StepScript.Environment

/-!
# Amendments of an environment

Binding a variable either adds it behind the others or replaces its value in its place.  This module
states that as a relation between two environments, and what the relation keeps: every name stays
where it is, and no name comes to stand twice.
-/

namespace StepScript.Environment

/-- The names of the variables, in the order in which they were first bound. -/
def names (environment : Environment) : List Text :=
  environment.map Prod.fst

/-- The variables are the same, a new one stands behind them, or one of them has another value. -/
inductive Amends : Environment → Environment → Prop where
  | unchanged (environment : Environment) : Amends environment environment
  | added (environment : Environment) (name : Text) (value : Value)
      (fresh : name ∉ names environment) : Amends environment (environment ++ [(name, value)])
  | replaced (front : Environment) (name : Text) (old new : Value) (back : Environment) :
      Amends (front ++ (name, old) :: back) (front ++ (name, new) :: back)

theorem bind_of_not_mem {name : Text} {environment : Environment}
    (fresh : name ∉ names environment) (value : Value) :
    bind name value environment = environment ++ [(name, value)] := by
  induction environment with
  | nil => rfl
  | cons entry rest ih =>
    simp only [names, List.map_cons, List.mem_cons, not_or] at fresh
    rw [bind, if_neg (Ne.symm fresh.1), ih fresh.2, List.cons_append]

theorem bind_of_mem {name : Text} {environment : Environment}
    (bound : name ∈ names environment) (value : Value) :
    ∃ front old back, environment = front ++ (name, old) :: back ∧
      bind name value environment = front ++ (name, value) :: back := by
  induction environment with
  | nil => simp [names] at bound
  | cons entry rest ih =>
    rcases entry with ⟨other, old⟩
    by_cases same : other = name
    · subst same
      exact ⟨[], old, rest, rfl, by rw [bind, if_pos rfl, List.nil_append]⟩
    · simp only [names, List.map_cons, List.mem_cons] at bound
      have later : name ∈ names rest := bound.resolve_left (Ne.symm same)
      rcases ih later with ⟨front, older, back, before, after⟩
      exact ⟨(other, old) :: front, older, back, by rw [before, List.cons_append],
        by rw [bind, if_neg same, after, List.cons_append]⟩

theorem amends_bind (name : Text) (value : Value) (environment : Environment) :
    Amends environment (bind name value environment) := by
  by_cases bound : name ∈ names environment
  · rcases bind_of_mem bound value with ⟨front, old, back, before, after⟩
    rw [after, before]
    exact .replaced front name old value back
  · rw [bind_of_not_mem bound]
    exact .added environment name value bound

namespace Amends

variable {before after : Environment}

/-- Names stay in their places, and at most one stands behind them. -/
theorem names_eq (amends : Amends before after) :
    names after = names before ∨ ∃ name, name ∉ names before ∧
      names after = names before ++ [name] := by
  cases amends with
  | unchanged => exact .inl rfl
  | added _ name value fresh => exact .inr ⟨name, fresh, by simp [names]⟩
  | replaced front name old new back => exact .inl (by simp [names])

theorem names_isPrefix (amends : Amends before after) : names before <+: names after := by
  rcases amends.names_eq with same | ⟨name, _, longer⟩
  · exact same ▸ List.prefix_rfl
  · exact longer ▸ List.prefix_append _ _

theorem names_nodup (amends : Amends before after) (distinct : (names before).Nodup) :
    (names after).Nodup := by
  rcases amends.names_eq with same | ⟨name, fresh, longer⟩
  · rwa [same]
  · rw [longer]
    refine List.nodup_append.mpr ⟨distinct, by simp, ?_⟩
    intro known member other single equal
    rw [List.mem_singleton] at single
    exact fresh (single ▸ equal ▸ member)

theorem length_le (amends : Amends before after) : after.length ≤ before.length + 1 := by
  cases amends with
  | unchanged => exact Nat.le_succ _
  | added => simp
  | replaced => simp

end Amends

end StepScript.Environment

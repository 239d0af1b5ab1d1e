import Mathlib
import StepScript.Number.Display
import StepScript.Text.Word

/-!
# Decimal digits

A natural number is the value of its decimal digits, and only zero begins with a zero.
-/

namespace StepScript.Number

theorem isDigit_of_mem_digitsOf {number : Nat} {char : Char} (member : char ∈ digitsOf number) :
    char.isDigit = true :=
  Nat.isDigit_of_mem_toDigits (by decide) (by decide) member

theorem digitsOf_ne_nil (number : Nat) : digitsOf number ≠ [] :=
  Nat.toDigits_ne_nil

theorem exists_cons_digitsOf (number : Nat) :
    ∃ char digits, digitsOf number = char :: digits ∧ char.isDigit = true := by
  rcases List.exists_cons_of_ne_nil (digitsOf_ne_nil number) with ⟨char, digits, written⟩
  have member : char ∈ digitsOf number := written ▸ List.mem_cons_self
  exact ⟨char, digits, written, isDigit_of_mem_digitsOf member⟩

theorem toNat_of_isDigit {char : Char} (digit : char.isDigit = true) :
    48 ≤ char.toNat ∧ char.toNat ≤ 57 := by
  simp only [Char.isDigit, Bool.and_eq_true, decide_eq_true_eq, ge_iff_le,
    UInt32.le_iff_toNat_le] at digit
  exact digit

theorem digitsValue_of_isDigit {digits : Text} (each : ∀ char ∈ digits, char.isDigit = true) :
    Text.digitsValue digits = Nat.ofDigitChars 10 digits 0 := by
  have same (value : Nat) :
      digits.foldl (fun value digit => value * 10 + (Text.digit? digit).getD 0) value =
        Nat.ofDigitChars 10 digits value := by
    induction digits generalizing value with
    | nil => rfl
    | cons char digits ih =>
      have digit : char.isDigit = true := each char List.mem_cons_self
      have range := toNat_of_isDigit digit
      have here : (Text.digit? char).getD 0 = char.toNat - '0'.toNat := by
        simp [Text.digit?, digit, show char.toNat < 128 by omega]
      rw [List.foldl_cons, here, ih fun other member => each other (List.mem_cons_of_mem _ member),
        Nat.ofDigitChars, Nat.ofDigitChars, List.foldl_cons, Nat.mul_comm]
  exact same 0

theorem digitsValue_digitsOf (number : Nat) : Text.digitsValue (digitsOf number) = number := by
  rw [digitsValue_of_isDigit fun char => isDigit_of_mem_digitsOf]
  exact Nat.ofDigitChars_ten_toDigits

theorem head_digitsOf_ne_zero {number : Nat} (positive : 0 < number) :
    (digitsOf number).head? ≠ some '0' := by
  unfold digitsOf
  induction number using Nat.strong_induction_on with
  | _ number ih =>
    rcases Nat.lt_or_ge number 10 with small | large
    · rw [Nat.toDigits_of_lt_base small]
      interval_cases number <;> decide
    · have shorter := ih (number / 10) (by omega) (by omega)
      rw [Nat.toDigits_of_base_le (by decide) large,
        List.head?_append_of_ne_nil _ Nat.toDigits_ne_nil]
      exact shorter

end StepScript.Number

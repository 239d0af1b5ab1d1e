import StepScript.Number.Numeral
import StepScript.Proofs.Number.Digits
import StepScript.Proofs.Number.Integer

/-!
# Numbers as they are written

A numeral is a sign and a decimal number without one (`Numeral.exists_magnitude`).  If it has
neither a point nor an exponent it denotes the double of its integer, as long as there is one.
-/

namespace StepScript

/-- A decimal number without a sign, as it is written: the digits in front of the point and those
behind it, if there is a point, and the exponent with its mark. -/
structure Magnitude where
  whole : Text
  places? : Option Text
  tail : Text
  exponent : Int
  digits : ∀ char ∈ whole ++ places?.getD [], Text.isDigit char = true
  spoken : whole ++ places?.getD [] ≠ []
  scaled : Numeral.readExponent? tail = some exponent

namespace Magnitude

def pointed (magnitude : Magnitude) : Text :=
  magnitude.places?.elim [] ('.' :: ·)

def text (magnitude : Magnitude) : Text :=
  magnitude.whole ++ (magnitude.pointed ++ magnitude.tail)

/-- What a number denotes behind a sign. -/
def numeral (magnitude : Magnitude) (negative : Bool) : Numeral :=
  ⟨negative, magnitude.whole, magnitude.places?.getD [], magnitude.exponent⟩

/-- Whether a number has neither a point nor an exponent. -/
def isInteger (magnitude : Magnitude) : Bool :=
  magnitude.places?.isNone && magnitude.tail.isEmpty

end Magnitude

theorem Numeral.takeSign_cases {text rest : Text} {negative : Bool}
    (taken : Numeral.takeSign text = (negative, rest)) :
    (negative = true ∧ text = '-' :: rest) ∨ (negative = false ∧ text = '+' :: rest) ∨
      (negative = false ∧ text = rest) := by
  unfold Numeral.takeSign at taken
  split at taken <;> cases taken <;> simp

/-- An exponent that is not empty is its mark, a sign, or none, and digits. -/
theorem Numeral.readExponent?_cons {mark : Char} {rest : Text} {exponent : Int}
    (scaled : Numeral.readExponent? (mark :: rest) = some exponent) :
    (mark = 'e' ∨ mark = 'E') ∧ ∃ negative digits, Numeral.takeSign rest = (negative, digits) ∧
      digits ≠ [] ∧ (∀ char ∈ digits, Text.isDigit char = true) ∧
      exponent =
        if negative then -(Text.digitsValue digits : Int) else Text.digitsValue digits := by
  rcases taken : Numeral.takeSign rest with ⟨negative, digits⟩
  simp only [Numeral.readExponent?, taken] at scaled
  split at scaled
  case isFalse => cases scaled
  rename_i shape
  rcases shape with ⟨marked, spoken, each⟩
  exact ⟨marked, negative, digits, rfl, spoken, List.all_eq_true.mp each,
    (Option.some.inj scaled).symm⟩

theorem Numeral.exists_magnitude {text : Text} {numeral : Numeral}
    (read : Numeral.read? text = some numeral) :
    ∃ magnitude : Magnitude, Numeral.takeSign text = (numeral.negative, magnitude.text) ∧
      numeral = magnitude.numeral numeral.negative := by
  unfold Numeral.read? at read
  rcases taken : Numeral.takeSign text with ⟨negative, unsigned⟩
  simp only [taken] at read
  have front : ∀ char ∈ unsigned.takeWhile Text.isDigit, Text.isDigit char = true :=
    fun _ member => List.mem_takeWhile_imp member
  have whole := List.takeWhile_append_dropWhile (p := Text.isDigit) (l := unsigned)
  generalize unsigned.takeWhile Text.isDigit = digits at read front whole
  generalize unsigned.dropWhile Text.isDigit = behind at read whole
  split at read
  · rename_i places
    have inner : ∀ char ∈ places.takeWhile Text.isDigit, Text.isDigit char = true :=
      fun _ member => List.mem_takeWhile_imp member
    have rest := List.takeWhile_append_dropWhile (p := Text.isDigit) (l := places)
    simp only [Option.bind_eq_bind, Option.bind_eq_some_iff, Option.pure_def, Option.guard_eq_some',
      Option.some.injEq] at read
    rcases read with ⟨_, spoken, exponent, scaled, rfl⟩
    refine ⟨⟨digits, some (places.takeWhile Text.isDigit), places.dropWhile Text.isDigit, exponent,
      ?_, ?_, scaled⟩, ?_, rfl⟩
    · exact fun char member => (List.mem_append.mp member).elim (front char) (inner char)
    · simpa [or_iff_not_imp_left] using spoken
    · simp [Magnitude.text, Magnitude.pointed, rest, whole]
  · simp only [Option.bind_eq_bind, Option.bind_eq_some_iff, Option.pure_def, Option.guard_eq_some',
      Option.some.injEq] at read
    rcases read with ⟨_, spoken, exponent, scaled, rfl⟩
    refine ⟨⟨digits, none, behind, exponent, ?_, ?_, scaled⟩, ?_, rfl⟩
    · simpa using front
    · simpa using spoken
    · simp [Magnitude.text, Magnitude.pointed, whole]

namespace Magnitude

theorem pow_mul_le_digitsValue (value : Nat) (digits : Text) :
    value * 10 ^ digits.length ≤
      digits.foldl (fun value digit => value * 10 + (Text.digit? digit).getD 0) value := by
  induction digits generalizing value with
  | nil => simp
  | cons char digits ih =>
    calc value * 10 ^ (char :: digits).length
        = value * 10 * 10 ^ digits.length := by rw [List.length_cons, Nat.pow_succ', Nat.mul_assoc]
      _ ≤ (value * 10 + (Text.digit? char).getD 0) * 10 ^ digits.length :=
        Nat.mul_le_mul_right _ (Nat.le_add_right _ _)
      _ ≤ _ := ih _

theorem pow_le_digitsValue {char : Char} {digits : Text} (digit : Text.isDigit char = true)
    (leading : Text.digit? char ≠ some 0) :
    10 ^ digits.length ≤ Text.digitsValue (char :: digits) := by
  rcases Option.isSome_iff_exists.mp digit with ⟨value, found⟩
  have positive : 1 ≤ value := Nat.one_le_iff_ne_zero.mpr fun zero => leading (zero ▸ found)
  calc 10 ^ digits.length
      ≤ value * 10 ^ digits.length := Nat.le_mul_of_pos_left _ positive
    _ ≤ digits.foldl (fun value digit => value * 10 + (Text.digit? digit).getD 0) value :=
      pow_mul_le_digitsValue value digits
    _ = Text.digitsValue (char :: digits) := by simp [Text.digitsValue, found]

theorem digitsValue_dropWhile (digits : Text) :
    Text.digitsValue (digits.dropWhile fun digit => Text.digit? digit == some 0) =
      Text.digitsValue digits := by
  induction digits with
  | nil => rfl
  | cons char digits ih =>
    by_cases zero : Text.digit? char = some 0
    · rw [List.dropWhile_cons_of_pos (by simp [zero]), ih]
      simp [Text.digitsValue, zero]
    · rw [List.dropWhile_cons_of_neg (by simp [zero])]

theorem toFloat_of_isInteger {magnitude : Magnitude} (integer : magnitude.isInteger = true)
    {number : Float}
    (small : Number.ofInteger? (Text.digitsValue magnitude.whole) = some number) :
    (magnitude.numeral false).toFloat = number := by
  rcases magnitude with ⟨whole, places?, tail, exponent, digits, spoken, scaled⟩
  simp only [isInteger, Bool.and_eq_true, Option.isNone_iff_eq_none, List.isEmpty_iff] at integer
  rcases integer with ⟨rfl, rfl⟩
  cases Option.some.inj scaled
  dsimp only [numeral, Option.getD_none] at *
  have same : number = Float.ofNat (Text.digitsValue whole) ∧ number.isInf = false := by
    simp only [Number.ofInteger?] at small
    split at small
    · cases small
    · rename_i finite
      cases small
      exact ⟨rfl, by simpa using finite⟩
  rw [Numeral.toFloat, List.append_nil]
  have value := digitsValue_dropWhile whole
  have few : (whole.dropWhile fun digit => Text.digit? digit == some 0).length ≤ 400 := by
    by_contra many
    cases leading : whole.dropWhile fun digit => Text.digit? digit == some 0 with
    | nil => simp [leading] at many
    | cons char rest =>
      have nonzero : Text.digit? char ≠ some 0 := by
        have head := List.head?_dropWhile_not (fun digit => Text.digit? digit == some 0) whole
        simpa [leading] using head
      have digit : Text.isDigit char = true := by
        refine digits char (List.mem_append_left _ ?_)
        exact (List.dropWhile_sublist _).subset (leading ▸ List.mem_cons_self)
      have large := @pow_le_digitsValue _ rest digit nonzero
      rw [← leading, value] at large
      rw [leading, List.length_cons] at many
      have infinite := Number.isInf_ofNat (Nat.lt_succ_iff.mp (not_le.mp many)) large
      rw [← same.1, same.2] at infinite
      cases infinite
  generalize (whole.dropWhile fun digit => Text.digit? digit == some 0).length = length at few
  have inRange : ¬(400 : Int) < length + (0 - (([] : Text).length : Int)) := by
    rw [List.length_nil]
    omega
  have large : ¬(length + (0 - (([] : Text).length : Int)) : Int) < -400 := by
    rw [List.length_nil]
    omega
  simp only [Numeral.scaled, inRange, large, if_false, Bool.false_eq_true]
  rw [same.1]
  split
  · rename_i zero
    rw [zero]
    rfl
  · rfl

end Magnitude

end StepScript

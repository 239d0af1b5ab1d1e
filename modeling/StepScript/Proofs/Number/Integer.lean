import Mathlib
import StepScript.Number.Dyadic

/-!
# Integers within the doubles

An integer below `10 ^ 300` has a double.  The proof follows the rounding: the exponent of what is
rounded to a double is bounded by the number of its digits, and only exponents far above that bound
are packed as infinities.
-/

namespace StepScript.Number

open Float.Model Float.Model.UnpackedFloat

/-- Zero, or a finite number with so many binary digits and a bounded exponent. -/
inductive Bounded (digits : Nat) (bound : Int) : UnpackedFloat → Prop where
  | zero (sign : Sign) : Bounded digits bound (.zero sign)
  | finite (sign : Sign) {mantissa : Nat} {exponent : Int} {positive : 0 < mantissa}
      (few : mantissa < 2 ^ digits) (raised : exponent ≤ bound) :
      Bounded digits bound (.finite sign mantissa exponent positive)

namespace Bounded

variable {digits : Nat} {bound larger : Int} {number : UnpackedFloat}

theorem isInf_eq_false (bounded : Bounded digits bound number) : number.isInf = false := by
  cases bounded <;> rfl

theorem mono (bounded : Bounded digits bound number) (le : bound ≤ larger) :
    Bounded digits larger number := by
  cases bounded with
  | zero sign => exact .zero sign
  | finite sign few raised => exact .finite sign few (raised.trans le)

end Bounded

/-! ## Rounding -/

theorem mantissa_shiftRight (extended : ExtendedMantissa) (count : Nat) :
    (extended >>> count).mantissa = extended.mantissa / 2 ^ count := by
  change (Nat.repeat ExtendedMantissa.shiftRightOne count extended).mantissa = _
  induction count with
  | zero => simp [Nat.repeat]
  | succ count ih =>
    rw [Nat.repeat, ExtendedMantissa.shiftRightOne, ih, Nat.pow_succ, Nat.div_div_eq_div_mul]

theorem roundedMantissa_le (extended : ExtendedMantissa) :
    extended.roundedMantissa ≤ extended.mantissa + 1 := by
  unfold ExtendedMantissa.roundedMantissa Accuracy.roundToNearestEven
  split <;> omega

theorem snd_shiftToTargetExponent (mantissa : Nat) (exponent : Int) (accuracy : Accuracy) :
    (shiftToTargetExponent .binary64 mantissa exponent accuracy).2 =
      max exponent (max (mantissa.log2 + exponent - 52) (-1074)) := by
  change exponent + (Format.binary64.targetExponent (totalExponent mantissa exponent) -
    exponent).toNat = _
  simp only [Format.targetExponent, totalExponent, Format.mantissaBits, Format.minExponent]
  norm_num
  omega

theorem fst_shiftToTargetExponent_lt (mantissa : Nat) (exponent : Int) :
    (shiftToTargetExponent .binary64 mantissa exponent .exact).1.mantissa < 2 ^ 53 := by
  change (ExtendedMantissa.mk mantissa false false >>>
    (Format.binary64.targetExponent (totalExponent mantissa exponent) - exponent).toNat).mantissa <
      2 ^ 53
  rw [mantissa_shiftRight, Nat.div_lt_iff_lt_mul (by positivity), ← Nat.pow_add]
  refine Nat.lt_log2_self.trans_le (Nat.pow_le_pow_right (by decide) ?_)
  simp only [Format.targetExponent, totalExponent, Format.mantissaBits, Format.minExponent]
  norm_num
  omega

/-- Rounding raises an exponent at most by what the mantissa has to be shifted, and by one. -/
theorem bounded_roundWithAccuracy (sign : Sign) (mantissa : Nat) (exponent : Int) :
    Bounded 53 (max exponent (max (mantissa.log2 + exponent - 52) (-1074)) + 1)
      (roundWithAccuracy .binary64 sign mantissa exponent .exact) := by
  have first := snd_shiftToTargetExponent mantissa exponent .exact
  have few := fst_shiftToTargetExponent_lt mantissa exponent
  unfold roundWithAccuracy
  generalize shiftToTargetExponent .binary64 mantissa exponent .exact = shifted at first few
  rcases shifted with ⟨extended, raised⟩
  dsimp only at first few ⊢
  have rounded := roundedMantissa_le extended
  have digits : extended.roundedMantissa.log2 ≤ 53 := by
    by_cases zero : extended.roundedMantissa = 0
    · simp [zero]
    · exact Nat.lt_succ_iff.mp ((Nat.log2_lt zero).mpr (by omega))
  have second := snd_shiftToTargetExponent extended.roundedMantissa raised .exact
  have small := fst_shiftToTargetExponent_lt extended.roundedMantissa raised
  split
  · exact .zero sign
  · refine .finite sign small ?_
    rw [second]
    omega

theorem bounded_round (sign : Sign) (mantissa : Nat) (exponent : Int) :
    Bounded 53 (max exponent (max (mantissa.log2 + exponent - 52) (-1074)) + 1)
      (UnpackedFloat.round .binary64 sign mantissa exponent) := by
  let count :=
    (exponent - Format.targetExponent .binary64 (totalExponent mantissa exponent)).toNat
  change Bounded 53 _ (roundWithAccuracy .binary64 sign (mantissa <<< count) (exponent - count)
    .exact)
  have digits : (mantissa <<< count).log2 ≤ mantissa.log2 + count := by
    by_cases zero : mantissa = 0
    · simp [zero]
    · rw [Nat.shiftLeft_eq, ← Nat.lt_succ_iff, Nat.log2_lt (by positivity), Nat.succ_eq_add_one,
        Nat.add_right_comm, Nat.pow_add]
      exact Nat.mul_lt_mul_of_pos_right Nat.lt_log2_self (by positivity)
  refine (bounded_roundWithAccuracy sign (mantissa <<< count) (exponent - count)).mono ?_
  omega

/-! ## Packing -/

/-- Bits with an exponent in the range of the doubles are unpacked with such an exponent. -/
theorem bounded_unpack {bits : BitVec 64} {bound : Int}
    (finite : (@unpackExponent .binary64 bits).toNat < 2047) (least : -1074 ≤ bound)
    (most : (@unpackExponent .binary64 bits).toNat ≤ bound + 1075) :
    Bounded 53 bound (UnpackedFloat.unpack .binary64 bits) := by
  have digits : (@unpackMantissa .binary64 bits).toNat < 2 ^ 53 :=
    (@unpackMantissa .binary64 bits).isLt.trans (by decide)
  unfold UnpackedFloat.unpack
  simp only [Format.exponentBias]
  split
  case isTrue whole =>
    rw [whole] at finite
    exact absurd finite (by decide)
  case isFalse =>
    split
    case isTrue none =>
      split
      · exact .zero _
      · refine .finite _ digits ?_
        rw [none]
        norm_num
        omega
    case isFalse =>
      refine .finite _ (1#1 ++ @unpackMantissa .binary64 bits).isLt ?_
      norm_num
      omega

theorem bounded_unpack_packComponents (sign : Sign) (scale : BitVec 11) (mantissa : BitVec 52)
    {bound : Int} (finite : scale.toNat < 2047) (least : -1074 ≤ bound)
    (most : scale.toNat ≤ bound + 1075) :
    Bounded 53 bound (UnpackedFloat.unpack .binary64 (packComponents .binary64 sign scale mantissa))
    := by
  have same : unpackExponent (packComponents .binary64 sign scale mantissa) = scale :=
    unpackExponent_packComponents
  refine bounded_unpack ?_ least ?_ <;> rw [same] <;> assumption

/-- What is packed with an exponent in the range of the doubles is unpacked with such an
exponent. -/
theorem bounded_unpack_pack {digits : Nat} {bound : Int} {number : UnpackedFloat}
    (bounded : Bounded digits bound number) (least : -1074 ≤ bound) (most : bound ≤ 971) :
    Bounded 53 bound (Float.Model.pack number).unpack := by
  change Bounded 53 bound (UnpackedFloat.unpack .binary64 (UnpackedFloat.pack .binary64 number))
  cases bounded with
  | zero sign => exact bounded_unpack_packComponents sign 0 0 (by decide) least (by simp; omega)
  | @finite sign mantissa exponent positive _ raised =>
    have inRange : ¬2 ^ Format.binary64.exponentBits ≤ (exponent + Format.exponentBias .binary64 +
        (Format.binary64.mantissaBitsWithoutImplicit : Nat)).toNat + 1 := by
      change ¬2048 ≤ (exponent + 1023 + 52).toNat + 1
      omega
    have field : (exponent + Format.exponentBias .binary64 +
        (Format.binary64.mantissaBitsWithoutImplicit : Nat)).toNat ≤ bound + 1075 := by
      change ((exponent + 1023 + 52).toNat : Int) ≤ bound + 1075
      omega
    dsimp only [UnpackedFloat.pack]
    rw [if_neg inRange]
    generalize (exponent + Format.exponentBias .binary64 +
        (Format.binary64.mantissaBitsWithoutImplicit : Nat)).toNat = scale at inRange field
    have few : scale < 2047 := by
      change ¬2048 ≤ scale + 1 at inRange
      omega
    by_cases normal : mantissa.log2 + 1 = Format.mantissaBits .binary64
    · rw [if_pos normal]
      have same : (BitVec.ofNat 11 scale).toNat = scale := by
        rw [BitVec.toNat_ofNat, Nat.mod_eq_of_lt (by omega)]
      exact bounded_unpack_packComponents sign _ _ (by omega) least (by omega)
    · rw [if_neg normal]
      exact bounded_unpack_packComponents sign 0 _ (by decide) least (by simp; omega)

/-- The product of two numbers has an exponent that is bounded by their digits and exponents. -/
theorem bounded_mul {firstDigits secondDigits : Nat} {firstBound secondBound : Int}
    {first second : UnpackedFloat} (one : Bounded firstDigits firstBound first)
    (other : Bounded secondDigits secondBound second) :
    Bounded 53 (max (firstBound + secondBound)
      (max (firstDigits + secondDigits + firstBound + secondBound - 52) (-1074)) + 1)
      (UnpackedFloat.mul .binary64 first second) := by
  cases one with
  | zero sign => cases other <;> exact .zero _
  | @finite sign mantissa exponent positive few raised =>
    cases other with
    | zero => exact .zero _
    | @finite otherSign otherMantissa otherExponent otherPositive otherFew otherRaised =>
      have product : mantissa * otherMantissa < 2 ^ (firstDigits + secondDigits) := by
        rw [Nat.pow_add]
        exact Nat.mul_lt_mul'' few otherFew
      have digits : (mantissa * otherMantissa).log2 < firstDigits + secondDigits :=
        (Nat.log2_lt (Nat.mul_pos positive otherPositive).ne').mpr product
      refine (bounded_roundWithAccuracy (sign * otherSign) _ _).mono ?_
      omega

/-! ## Integers -/

theorem bounded_ofNat {count : Nat} (small : count < 2 ^ 53) :
    Bounded 53 1 (UnpackedFloat.ofNat .binary64 count) := by
  unfold UnpackedFloat.ofNat UnpackedFloat.ofInt UnpackedFloat.normalize
  have digits : count.log2 ≤ 52 := by
    by_cases zero : count = 0
    · simp [zero]
    · exact Nat.lt_succ_iff.mp ((Nat.log2_lt zero).mpr small)
  split
  case h_1 negative =>
    have below : (count : Int) < 0 := compare_lt_iff_lt.mp negative
    omega
  case h_2 => exact .zero _
  case h_3 =>
    refine (bounded_round .positive count 0).mono ?_
    omega

/-- A count of digits and a point behind them is a product with a bounded exponent. -/
theorem bounded_ofScientific {digits count : Nat} (large : 2 ^ 53 ≤ count)
    (small : count < 2 ^ digits) :
    Bounded 53 (max (-53) ((digits : Int) - 51) + 1)
      (UnpackedFloat.ofScientific .binary64 count 0) := by
  have nonzero : count ≠ 0 := by omega
  have shifted : count <<< 53 < 2 ^ (digits + 53) := by
    rw [Nat.shiftLeft_eq, Nat.pow_add]
    exact Nat.mul_lt_mul_of_pos_right small (by positivity)
  have notTiny : ¬(0 : Int) < -(2 ^ Format.binary64.exponentBits + count.log2) := by
    norm_num
  unfold UnpackedFloat.ofScientific
  rw [dif_neg nonzero, if_neg (by decide), if_neg notTiny, if_pos le_rfl]
  refine (bounded_mul (.finite .positive shifted le_rfl)
    (.finite .positive (show 10 ^ 0 < 2 ^ 1 by decide) le_rfl)).mono ?_
  simp only [Format.mantissaBits]
  omega

theorem isInf_neg {number : Float} (finite : number.isInf = false) : (-number).isInf = false := by
  let bits : BitVec Format.binary64.numBits := number.toModel.toBits.toBitVec
  have finite : (UnpackedFloat.unpack .binary64 bits).isInf = false := finite
  change (Float.Model.pack (UnpackedFloat.unpack .binary64 bits).neg).unpack.isInf = false
  have scale : (unpackExponent bits).toNat < 2048 := (unpackExponent bits).isLt
  by_cases whole : (unpackExponent bits).toNat = 2047
  · have last : unpackExponent bits = -BitVec.ofNat Format.binary64.exponentBits 1 :=
      BitVec.eq_of_toNat_eq whole
    have none : UnpackedFloat.unpack .binary64 bits = .notANumber := by
      unfold UnpackedFloat.unpack at finite ⊢
      simp only [last, if_true] at finite ⊢
      split at finite
      · cases finite
      · rename_i other
        exact if_neg other
    rw [none]
    rfl
  · have bounded : Bounded 53 971 (UnpackedFloat.unpack .binary64 bits) :=
      bounded_unpack (by omega) (by decide) (by omega)
    generalize UnpackedFloat.unpack .binary64 bits = unpacked at bounded
    have negated : Bounded 53 971 unpacked.neg := by
      cases bounded with
      | zero sign => exact .zero _
      | finite sign few raised => exact .finite _ few raised
    exact (bounded_unpack_pack negated (by decide) le_rfl).isInf_eq_false

/-- An integer below `10 ^ 300` has a double. -/
theorem ofInteger?_of_lt {count : Nat} (small : count < 10 ^ 300) :
    ofInteger? (count : Int) = some (Float.ofNat count) := by
  have finite : (Float.ofNat count).isInf = false := by
    change (Float.ofScientific count false 0).isInf = false
    unfold Float.ofScientific
    split
    case isTrue fits =>
      have converted : Bounded 53 1 count.toUInt64.toFloat.toModel.unpack := by
        have same : count.toUInt64.toNat = count := Nat.mod_eq_of_lt (by omega)
        have whole := bounded_unpack_pack (bounded_ofNat fits.1) (by decide) (by decide)
        rw [← same] at whole
        exact whole
      have one : Bounded 53 (-52) (Float.ofBits 0x3FF0000000000000).toModel.unpack :=
        .finite .positive (show 2 ^ 52 < 2 ^ 53 by decide) le_rfl
      have product := bounded_unpack_pack (bounded_mul converted one) (by decide) (by decide)
      exact product.isInf_eq_false
    case isFalse large =>
      have least : 2 ^ 53 ≤ count := by
        by_contra few
        exact large ⟨not_le.mp few, by decide⟩
      have digits : count < 2 ^ 1000 := calc
        count < 10 ^ 300 := small
        _ = (10 ^ 3) ^ 100 := by rw [← pow_mul]
        _ ≤ (2 ^ 10) ^ 100 := Nat.pow_le_pow_left (by decide) 100
        _ = 2 ^ 1000 := by rw [← pow_mul]
      have product : Bounded 53 971
          (Float.Model.pack (UnpackedFloat.ofScientific .binary64 count 0)).unpack :=
        bounded_unpack_pack ((bounded_ofScientific least digits).mono (by decide))
          (by decide) le_rfl
      exact product.isInf_eq_false
  change (if (Float.ofNat count).isInf then none else some (Float.ofNat count)) = _
  rw [finite]
  rfl

/-! ## Overflow -/

theorem le_roundedMantissa (extended : ExtendedMantissa) :
    extended.mantissa ≤ extended.roundedMantissa := by
  unfold ExtendedMantissa.roundedMantissa Accuracy.roundToNearestEven
  split <;> omega

/-- What is shifted to its exponent stays positive, if the exponent is no smaller than those of the
doubles. -/
theorem fst_shiftToTargetExponent_pos {mantissa : Nat} {exponent : Int} (positive : 0 < mantissa)
    (least : -1074 ≤ exponent) :
    0 < (shiftToTargetExponent .binary64 mantissa exponent .exact).1.mantissa := by
  change 0 < (ExtendedMantissa.mk mantissa false false >>>
    (Format.binary64.targetExponent (totalExponent mantissa exponent) - exponent).toNat).mantissa
  rw [mantissa_shiftRight]
  refine Nat.div_pos ((Nat.pow_le_pow_right (by decide) ?_).trans
    (Nat.log2_self_le positive.ne')) (by positivity)
  simp only [Format.targetExponent, totalExponent, Format.mantissaBits, Format.minExponent]
  norm_num
  omega

/-- Rounding keeps a positive number positive, and its exponent is no less than what the mantissa
has to be shifted. -/
theorem exists_roundWithAccuracy (sign : Sign) {mantissa : Nat} {exponent : Int}
    (positive : 0 < mantissa) (least : -1074 ≤ exponent) :
    ∃ rounded raised more, roundWithAccuracy .binary64 sign mantissa exponent .exact =
      .finite sign rounded raised more ∧ mantissa.log2 + exponent - 52 ≤ raised := by
  have first := snd_shiftToTargetExponent mantissa exponent .exact
  have kept := fst_shiftToTargetExponent_pos positive least
  unfold roundWithAccuracy
  generalize shiftToTargetExponent .binary64 mantissa exponent .exact = shifted at first kept
  rcases shifted with ⟨extended, raised⟩
  dsimp only at first kept ⊢
  have second := snd_shiftToTargetExponent extended.roundedMantissa raised .exact
  have keptToo : 0 < (shiftToTargetExponent .binary64 extended.roundedMantissa raised
      .exact).1.mantissa :=
    fst_shiftToTargetExponent_pos (kept.trans_le (le_roundedMantissa extended)) (by omega)
  rw [dif_neg keptToo.ne']
  exact ⟨_, _, keptToo, rfl, by omega⟩

/-- What is packed with an exponent beyond the range of the doubles is an infinity. -/
theorem isInf_pack (sign : Sign) {mantissa : Nat} {exponent : Int} (positive : 0 < mantissa)
    (beyond : 971 < exponent) :
    (Float.Model.pack (.finite sign mantissa exponent positive)).unpack.isInf = true := by
  change (UnpackedFloat.unpack .binary64 (UnpackedFloat.pack .binary64
    (.finite sign mantissa exponent positive))).isInf = true
  have outside : 2 ^ Format.binary64.exponentBits ≤ (exponent + Format.exponentBias .binary64 +
      (Format.binary64.mantissaBitsWithoutImplicit : Nat)).toNat + 1 := by
    change 2048 ≤ (exponent + 1023 + 52).toNat + 1
    omega
  dsimp only [UnpackedFloat.pack]
  rw [if_pos outside]
  cases sign <;> rfl

/-- An integer of more than four hundred digits has no double. -/
theorem isInf_ofNat {count digits : Nat} (many : 400 ≤ digits) (large : 10 ^ digits ≤ count) :
    (Float.ofNat count).isInf = true := by
  have least : 2 ^ 1200 ≤ count := calc
    2 ^ 1200 = (2 ^ 12) ^ 100 := by rw [← pow_mul]
    _ ≤ (10 ^ 4) ^ 100 := Nat.pow_le_pow_left (by decide) 100
    _ ≤ (10 ^ 4) ^ (digits / 4) := Nat.pow_le_pow_right (by decide) (by omega)
    _ ≤ 10 ^ digits := by
      rw [← pow_mul]
      exact Nat.pow_le_pow_right (by decide) (by omega)
    _ ≤ count := large
  have nonzero : count ≠ 0 := by
    rintro rfl
    exact absurd least (not_le.mpr (by positivity))
  have wide : ¬(count < 2 ^ 53 ∧ 0 ≤ 22) := fun few =>
    absurd ((Nat.pow_le_pow_right (by decide) (by decide)).trans least) (not_le.mpr few.1)
  change (Float.ofScientific count false 0).isInf = true
  unfold Float.ofScientific
  rw [dif_neg wide]
  change (Float.Model.pack (UnpackedFloat.ofScientific .binary64 count 0)).unpack.isInf = true
  have notTiny : ¬(0 : Int) < -(2 ^ Format.binary64.exponentBits + count.log2) := by
    norm_num
  have positive : 0 < (count <<< 53) * 10 ^ 0 := by
    rw [Nat.shiftLeft_eq]
    positivity
  have digits : 1253 ≤ ((count <<< 53) * 10 ^ 0).log2 := by
    rw [Nat.le_log2 positive.ne', Nat.shiftLeft_eq]
    calc 2 ^ 1253 = 2 ^ 1200 * 2 ^ 53 := by rw [← pow_add]
      _ ≤ count * 2 ^ 53 := Nat.mul_le_mul_right _ least
      _ = count * 2 ^ 53 * 10 ^ 0 := by rw [pow_zero, mul_one]
  unfold UnpackedFloat.ofScientific
  rw [dif_neg nonzero, if_neg (by decide), if_neg notTiny, if_pos le_rfl]
  rcases exists_roundWithAccuracy (.positive * .positive) positive
    (show (-1074 : Int) ≤ -(53 : Nat) + 0 by decide) with ⟨rounded, raised, more, same, bound⟩
  have beyond : 971 < raised := by omega
  have product := isInf_pack (.positive * .positive) more beyond
  rw [← same] at product
  exact product

/-- The negative of an infinity is one. -/
theorem isInf_neg_of_isInf {number : Float} (infinite : number.isInf = true) :
    (-number).isInf = true := by
  change number.toModel.unpack.isInf = true at infinite
  change (Float.Model.pack number.toModel.unpack.neg).unpack.isInf = true
  generalize number.toModel.unpack = unpacked at infinite
  cases unpacked with
  | infinity sign => cases sign <;> rfl
  | notANumber | zero | finite => cases infinite

/-- An integer of more than four hundred digits lies beyond the doubles on both sides of zero. -/
theorem ofInteger?_eq_none {count digits : Nat} (many : 400 ≤ digits) (large : 10 ^ digits ≤ count)
    (negative : Bool) : ofInteger? (if negative then -(count : Int) else count) = none := by
  have infinite := isInf_ofNat many large
  cases negative with
  | false => exact if_pos infinite
  | true =>
    obtain ⟨less, rfl⟩ : ∃ less, count = less + 1 := by
      cases count with
      | zero => exact absurd large (not_le.mpr (by positivity))
      | succ less => exact ⟨less, rfl⟩
    exact if_pos (isInf_neg_of_isInf infinite)

end StepScript.Number

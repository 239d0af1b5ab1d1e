import StepScript.Number.Dyadic

/-!
# Division and remainder

Both operations are total on doubles.  Division by zero gives an infinity or NaN, and a remainder
that has no value is NaN.
-/

namespace StepScript.Number

/-- Neither a number nor an infinity. -/
def nan : Float :=
  0.0 / 0.0

/-- The quotient.  A zero divisor gives the infinity whose sign is the product of both signs, or
NaN when the dividend is zero too. -/
def divide (left right : Float) : Float :=
  left / right

/-- What is left of one fraction after taking away the other as often as it fits.  The result has
the sign of the first and is exact: brought to the smaller exponent, the remainder is smaller than
the mantissa that had that exponent. -/
def fractionRemainder (left right : Dyadic) : Dyadic :=
  let exponent := min left.exponent right.exponent
  let dividend := left.mantissa <<< (left.exponent - exponent).toNat
  let divisor := right.mantissa <<< (right.exponent - exponent).toNat
  ⟨left.negative, dividend % divisor, exponent⟩

/-- The remainder of a division that rounds toward zero.  It is NaN for a zero divisor, an infinite
dividend or a NaN operand, and an infinite divisor leaves the dividend as it is. -/
def remainder (left right : Float) : Float :=
  if right == 0 || right.isNaN then nan
  else
    match Dyadic.ofFloat? left, Dyadic.ofFloat? right with
    | none, _ => nan
    | some _, none => left
    | some dividend, some divisor => (fractionRemainder dividend divisor).toFloat

end StepScript.Number

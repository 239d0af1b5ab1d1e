/-!
# Doubles as dyadic fractions

A finite double is a sign and a mantissa times a power of two.  Whatever has to be exact about a
double, such as whether it is an integer, is decided on that fraction in integer arithmetic.
-/

namespace StepScript

/-- The number `± mantissa * 2 ^ exponent`. -/
structure Dyadic where
  negative : Bool
  mantissa : Nat
  exponent : Int
  deriving DecidableEq, Repr

namespace Dyadic

/-- The fraction that a double denotes; none for the infinities and for NaN. -/
def ofFloat? (value : Float) : Option Dyadic :=
  let bits := value.toBits.toNat
  let negative : Bool := 1 <<< 63 ≤ bits
  let scale : Nat := (bits >>> 52) % 2048
  let fraction : Nat := bits % (1 <<< 52)
  if scale = 2047 then none
  else if scale = 0 then some ⟨negative, fraction, -1074⟩
  else some ⟨negative, (1 <<< 52) + fraction, (scale : Int) - 1075⟩

/-- The double that denotes a fraction whose mantissa is below `2 ^ 53` and whose exponent is at
least `-1074`, so that nothing is rounded.  The mantissa is shifted up until it fills its bits or
the exponent cannot sink further. -/
def toFloat (fraction : Dyadic) : Float :=
  let sign := if fraction.negative then 1 <<< 63 else 0
  if fraction.mantissa = 0 then Float.ofBits (UInt64.ofNat sign)
  else
    let room := 52 - Nat.log2 fraction.mantissa
    let shift := min room (fraction.exponent + 1074).toNat
    let mantissa := fraction.mantissa <<< shift
    let scale := (fraction.exponent + 1074).toNat - shift
    Float.ofBits (UInt64.ofNat (sign + (scale <<< 52) + mantissa))

/-- The magnitude as a quotient of two natural numbers. -/
def quotient (fraction : Dyadic) : Nat × Nat :=
  (fraction.mantissa <<< fraction.exponent.toNat, 1 <<< (-fraction.exponent).toNat)

/-- The integer between the fraction and zero that lies next to it. -/
def truncate (fraction : Dyadic) : Int :=
  let magnitude := fraction.quotient.1 / fraction.quotient.2
  if fraction.negative then -(magnitude : Int) else magnitude

def isInteger (fraction : Dyadic) : Bool :=
  fraction.quotient.1 % fraction.quotient.2 == 0

end Dyadic

namespace Number

/-- The integer that a double denotes, if it denotes one.  Both zeros denote zero. -/
def integer? (value : Float) : Option Int :=
  match Dyadic.ofFloat? value with
  | some fraction => if fraction.isInteger then some fraction.truncate else none
  | none => none

/-- The natural number that a double denotes, if it denotes one. -/
def natural? (value : Float) : Option Nat :=
  match integer? value with
  | some (.ofNat number) => some number
  | _ => none

/-- The double nearest to an integer; none when the integer lies beyond the doubles. -/
def ofInteger? (number : Int) : Option Float :=
  let value := Float.ofInt number
  if value.isInf then none else some value

end Number

end StepScript

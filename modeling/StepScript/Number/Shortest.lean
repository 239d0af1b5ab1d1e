import StepScript.Number.Dyadic

/-!
# Shortest decimal digits

A double stands for every real number that rounds to it.  Its shortest digits are those of a
decimal number with the fewest digits among these; of two such numbers it is the nearer one, and of
two equally near ones the one with the even last digit.
-/

namespace StepScript

/-- The decimal number `digits * 10 ^ exponent`. -/
structure Decimal where
  digits : Nat
  exponent : Int
  deriving DecidableEq, Repr

namespace Decimal

/-- The reals that round to a positive fraction, all over one denominator.  If it is closed, its two
ends do so too. -/
structure Interval where
  low : Nat
  value : Nat
  high : Nat
  denominator : Nat
  closed : Bool

/-- Half the distance to the neighbour on either side.  Below a power of two the neighbour is only
half as far away, except among the smallest numbers.  An end goes to the even mantissa. -/
def Interval.around (fraction : Dyadic) : Interval :=
  let scale := 1 <<< fraction.exponent.toNat
  let below := if fraction.mantissa = 1 <<< 52 ∧ -1074 < fraction.exponent then 1 else 2
  { low := (4 * fraction.mantissa - below) * scale
    value := 4 * fraction.mantissa * scale
    high := (4 * fraction.mantissa + 2) * scale
    denominator := 4 <<< (-fraction.exponent).toNat
    closed := fraction.mantissa % 2 == 0 }

/-- The least power of ten above a positive quotient, as its exponent. -/
def magnitude (numerator denominator : Nat) : Int :=
  if denominator ≤ numerator then ((Nat.toDigits 10 (numerator / denominator)).length : Int)
  else
    let reaches (places : Nat) : Bool := denominator ≤ numerator * Nat.pow 10 (places + 1)
    match (List.range 400).find? reaches with
    | some places => -(places : Int)
    | none => 0

/-- The decimal numbers with a given count of digits on either side of the value, those that round
to it, and of these the nearer one. -/
def Interval.nearest? (interval : Interval) (count : Nat) : Option Decimal :=
  let exponent := magnitude interval.value interval.denominator - count
  let unit := interval.denominator * Nat.pow 10 exponent.toNat
  let scale := Nat.pow 10 (-exponent).toNat
  let below := interval.value * scale / unit
  let above := below + 1
  let holds (digits : Nat) : Bool :=
    if interval.closed then
      interval.low * scale ≤ digits * unit && digits * unit ≤ interval.high * scale
    else interval.low * scale < digits * unit && digits * unit < interval.high * scale
  let toBelow := interval.value * scale - below * unit
  let toAbove := above * unit - interval.value * scale
  if holds below && (!holds above || toBelow < toAbove || (toBelow == toAbove && below % 2 == 0))
  then some ⟨below, exponent⟩
  else if holds above then some ⟨above, exponent⟩
  else none

/-- The decimal number with the fewest digits that rounds to a positive fraction.  Seventeen digits
are always enough. -/
def shortest (fraction : Dyadic) : Decimal :=
  let interval := Interval.around fraction
  ((List.range 17).findSome? fun count => interval.nearest? (count + 1)).getD ⟨0, 0⟩

end Decimal

end StepScript

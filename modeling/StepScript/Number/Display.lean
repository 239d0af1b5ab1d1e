import StepScript.Number.Shortest

/-!
# How numbers are shown

Integers below a bound are shown with all their digits and without a point.  Every other number is
shown by its shortest digits, positionally or with an exponent of ten.
-/

namespace StepScript.Number

/-- The choices that fix the written form of a decimal number.  It is positional if the exponent of
the leading digit is at least `positionalFrom` and below `positionalBelow`; otherwise an exponent of
at least `exponentWidth` digits is written. -/
structure Layout where
  positionalFrom : Int
  positionalBelow : Int
  exponentWidth : Nat

/-- Numbers from one ten-thousandth up to ten to the sixteenth are written positionally, and an
exponent has at least two digits. -/
def shownLayout : Layout :=
  ⟨-4, 16, 2⟩

def digitsOf (number : Nat) : List Char :=
  Nat.toDigits 10 number

/-- An integer with its sign if it is negative. -/
def showInteger : Int → List Char
  | .ofNat number => digitsOf number
  | .negSucc number => '-' :: digitsOf (number + 1)

/-- The digits without the zeros behind them, and the exponent of the leading digit. -/
def significant (number : Decimal) : List Char × Int :=
  let digits := digitsOf number.digits
  ((digits.reverse.dropWhile (· = '0')).reverse, number.exponent + digits.length - 1)

/-- Writes a positive decimal number. -/
def Layout.write (layout : Layout) (number : Decimal) : List Char :=
  let (digits, leading) := significant number
  if layout.positionalFrom ≤ leading ∧ leading < layout.positionalBelow then
    if leading < 0 then
      '0' :: '.' :: List.replicate (-leading - 1).toNat '0' ++ digits
    else
      let whole := leading.toNat + 1
      let padded := digits ++ List.replicate (whole - digits.length) '0'
      let fraction := padded.drop whole
      padded.take whole ++ '.' :: (if fraction.isEmpty then ['0'] else fraction)
  else
    let point := if digits.length ≤ 1 then digits else digits.take 1 ++ '.' :: digits.drop 1
    let exponent := digitsOf leading.natAbs
    point ++ 'e' :: (if leading < 0 then '-' else '+') ::
      List.replicate (layout.exponentWidth - exponent.length) '0' ++ exponent

/-- The shortest digits of a double, with its sign. -/
def showShortest (fraction : Dyadic) : List Char :=
  (if fraction.negative then ['-'] else []) ++ shownLayout.write (Decimal.shortest fraction)

/-- The text that shows a double. -/
def display (value : Float) : List Char :=
  match Dyadic.ofFloat? value with
  | none =>
    if value.isNaN then "NaN".toList
    else if value < 0 then "-Infinity".toList
    else "Infinity".toList
  | some fraction =>
    if fraction.isInteger && fraction.truncate.natAbs < Nat.pow 10 21 then
      showInteger fraction.truncate
    else showShortest fraction

/-- The text of a double with a fixed number of places behind the point; a half goes to the even
neighbour. -/
def displayFixed (places : Nat) (value : Float) : List Char :=
  match Dyadic.ofFloat? value with
  | none => if value.isNaN then "nan".toList else if value < 0 then "-inf".toList else "inf".toList
  | some fraction =>
    let (numerator, denominator) := fraction.quotient
    let scaled := numerator * Nat.pow 10 places
    let below := scaled / denominator
    let rest := 2 * (scaled % denominator)
    let rounded :=
      if denominator < rest ∨ (rest = denominator ∧ below % 2 = 1) then below + 1 else below
    let digits := digitsOf rounded
    let padded := List.replicate (places + 1 - digits.length) '0' ++ digits
    let whole := padded.length - places
    (if fraction.negative then ['-'] else []) ++ padded.take whole ++
      (if places = 0 then [] else '.' :: padded.drop whole)

end StepScript.Number

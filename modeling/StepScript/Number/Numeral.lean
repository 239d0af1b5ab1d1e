import StepScript.Text.Word

/-!
# Numerals

A numeral is a sign, the digits on both sides of a point and an exponent of ten.  It denotes the
double nearest to its value; values beyond the doubles denote an infinity.  The digits may come
from any script.
-/

namespace StepScript

structure Numeral where
  negative : Bool
  whole : Text
  fraction : Text
  exponent : Int
  deriving DecidableEq, Repr

namespace Numeral

/-- The double nearest to `mantissa * 10 ^ exponent`, where the mantissa has the given number of
digits.  Far outside the range of the doubles the powers of ten are not computed. -/
def scaled (mantissa digits : Nat) (exponent : Int) : Float :=
  if mantissa = 0 then 0
  else if 400 < digits + exponent then 1.0 / 0.0
  else if digits + exponent < -400 then 0
  else Float.ofScientific mantissa (exponent < 0) exponent.natAbs

def toFloat (numeral : Numeral) : Float :=
  let digits := numeral.whole ++ numeral.fraction
  let leading := digits.dropWhile fun digit => Text.digit? digit == some 0
  let magnitude := scaled (Text.digitsValue digits) leading.length
    (numeral.exponent - numeral.fraction.length)
  if numeral.negative then -magnitude else magnitude

/-- Splits a sign off; without one the text is positive. -/
def takeSign : Text → Bool × Text
  | '-' :: rest => (true, rest)
  | '+' :: rest => (false, rest)
  | text => (false, text)

/-- An exponent that fills the whole text: empty, or a mark, an optional sign and digits. -/
def readExponent? : Text → Option Int
  | [] => some 0
  | mark :: rest =>
    let (negative, digits) := takeSign rest
    if (mark = 'e' ∨ mark = 'E') ∧ digits ≠ [] ∧ digits.all Text.isDigit then
      let value : Int := Text.digitsValue digits
      some (if negative then -value else value)
    else none

/-- A numeral that fills the whole text.  There is a digit on at least one side of the point. -/
def read? (text : Text) : Option Numeral := do
  let (negative, unsigned) := takeSign text
  let whole := unsigned.takeWhile Text.isDigit
  let behind := unsigned.dropWhile Text.isDigit
  let (fraction, rest) :=
    match behind with
    | '.' :: places => (places.takeWhile Text.isDigit, places.dropWhile Text.isDigit)
    | _ => ([], behind)
  guard (whole ≠ [] ∨ fraction ≠ [])
  let exponent ← readExponent? rest
  return ⟨negative, whole, fraction, exponent⟩

end Numeral

end StepScript

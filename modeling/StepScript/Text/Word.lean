import StepScript.Text.Basic
import StepScript.Text.WordTable

/-!
# Words and digits

A word character is a letter or a number of any script, or an underscore.  A digit is a decimal
digit of any script; its value is its distance from the zero of its series.
-/

namespace StepScript.Text

/-- Letters, numeric characters and the underscore. -/
def isWord (char : Char) : Bool :=
  if char.toNat < 128 then char.isAlphanum || char == '_' else inRanges wordRanges char.toNat

def digit? (char : Char) : Option Nat :=
  let code := char.toNat
  if code < 128 then
    if char.isDigit then some (code - 48) else none
  else
    (decimalZeros.find? fun base => base ≤ code && code < base + 10).map (code - ·)

/-- Decimal digits of any script. -/
def isDigit (char : Char) : Bool :=
  (digit? char).isSome

/-- The number that a run of digits writes; a character that is no digit counts as zero. -/
def digitsValue (digits : Text) : Nat :=
  digits.foldl (fun value digit => value * 10 + (digit? digit).getD 0) 0

end StepScript.Text

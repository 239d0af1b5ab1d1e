import StepScript.Text.Basic
import StepScript.Text.PrintableTable

/-!
# Quoted text

How a message shows a piece of text that may hold anything.  The text stands in single quotes, or
in double quotes when it holds a single quote and no double quote, and what cannot be shown is
written as an escape.
-/

namespace StepScript.Text

/-- Characters that quoting leaves as they are. -/
def isPrintable (char : Char) : Bool :=
  let code := char.toNat
  if code < 128 then 32 ≤ code && code < 127 else inRanges printableRanges code

/-- The lower-case hexadecimal digits of a number, padded with zeros to a width. -/
def hexDigits (width number : Nat) : List Char :=
  let digits := Nat.toDigits 16 number
  List.replicate (width - digits.length) '0' ++ digits

def escaped (quote char : Char) : List Char :=
  let code := char.toNat
  if char = quote ∨ char = '\\' then ['\\', char]
  else if char = '\n' then ['\\', 'n']
  else if char = '\r' then ['\\', 'r']
  else if char = '\t' then ['\\', 't']
  else if isPrintable char then [char]
  else if code < 0x100 then '\\' :: 'x' :: hexDigits 2 code
  else if code < 0x10000 then '\\' :: 'u' :: hexDigits 4 code
  else '\\' :: 'U' :: hexDigits 8 code

def quoted (text : Text) : Text :=
  let quote := if text.contains '\'' && !text.contains '"' then '"' else '\''
  quote :: text.flatMap (escaped quote) ++ [quote]

end StepScript.Text

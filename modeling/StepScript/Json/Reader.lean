import StepScript.Json.Basic
import StepScript.Number.Numeral

/-!
# Reading JSON text

The reader accepts one value with blanks around it.  Beyond the standard it knows the words `NaN`,
`Infinity` and `-Infinity`.  It refuses integers with more than 4300 digits and containers nested
too deeply to be read.
-/

namespace StepScript.Json

/-- Containers may be nested this deep. -/
def nestingLimit : Nat :=
  990

/-- Drops the blanks that may stand between the parts of a value. -/
def skipSpace (text : Text) : Text :=
  text.dropWhile fun char => char = ' ' || char = '\t' || char = '\n' || char = '\r'

def hexValue? (char : Char) : Option Nat :=
  if char.isDigit then some (char.toNat - 48)
  else if 'a' ≤ char ∧ char ≤ 'f' then some (char.toNat - 87)
  else if 'A' ≤ char ∧ char ≤ 'F' then some (char.toNat - 55)
  else none

/-- The code that four hexadecimal digits write. -/
def unit? (a b c d : Char) : Option Nat := do
  return (← hexValue? a) * 4096 + (← hexValue? b) * 256 + (← hexValue? c) * 16 + (← hexValue? d)

/-- The character that a backslash and a letter stand for. -/
def escapedCode? (letter : Char) : Option Nat :=
  match letter with
  | '"' => some 34
  | '\\' => some 92
  | '/' => some 47
  | 'b' => some 8
  | 'f' => some 12
  | 'n' => some 10
  | 'r' => some 13
  | 't' => some 9
  | _ => none

/-- The codes of a text up to its closing quote, and what follows the quote. -/
def readCodes : Text → Option (List Nat × Text)
  | [] => none
  | '"' :: rest => some ([], rest)
  | '\\' :: 'u' :: a :: b :: c :: d :: rest => do
    let unit ← unit? a b c d
    let (codes, behind) ← readCodes rest
    return (unit :: codes, behind)
  | '\\' :: letter :: rest => do
    let code ← escapedCode? letter
    let (codes, behind) ← readCodes rest
    return (code :: codes, behind)
  | char :: rest =>
    if char.toNat < 32 then none
    else do
      let (codes, behind) ← readCodes rest
      return (char.toNat :: codes, behind)

/-- The character of a code; half of a character becomes the replacement character. -/
def codeChar (code : Nat) : Char :=
  if 0xD800 ≤ code ∧ code < 0xE000 then '\ufffd' else Char.ofNat code

/-- Joins the halves of characters that were written in two units. -/
def joinHalves : List Nat → Text
  | [] => []
  | [code] => [codeChar code]
  | high :: low :: rest =>
    if (0xD800 ≤ high ∧ high < 0xDC00) ∧ 0xDC00 ≤ low ∧ low < 0xE000 then
      Char.ofNat (0x10000 + (high - 0xD800) * 0x400 + (low - 0xDC00)) :: joinHalves rest
    else codeChar high :: joinHalves (low :: rest)

def takeDigits (text : Text) : Text × Text :=
  (text.takeWhile Char.isDigit, text.dropWhile Char.isDigit)

/-- The digits in front of the point: a single zero, or digits that do not begin with zero. -/
def readWhole? (text : Text) : Option (Text × Text) :=
  match text with
  | '0' :: rest => some (['0'], rest)
  | _ =>
    match takeDigits text with
    | ([], _) => none
    | found => some found

/-- The point and the digits behind it, if both are there. -/
def readFraction (text : Text) : Text × Text :=
  match text with
  | '.' :: rest =>
    match takeDigits rest with
    | ([], _) => ([], text)
    | found => found
  | _ => ([], text)

/-- The exponent, if it has digits. -/
def readExponent (text : Text) : Option Int × Text :=
  match text with
  | mark :: rest =>
    if mark = 'e' ∨ mark = 'E' then
      let (negative, unsigned) := Numeral.takeSign rest
      match takeDigits unsigned with
      | ([], _) => (none, text)
      | (digits, behind) =>
        let value : Int := Text.digitsValue digits
        (some (if negative then -value else value), behind)
    else (none, text)
  | [] => (none, text)

/-- A number: an integer if it has neither a point nor an exponent. -/
def readNumber (negative : Bool) (text : Text) : Option (Json × Text) := do
  let (whole, behindWhole) ← readWhole? text
  let (fraction, behindFraction) := readFraction behindWhole
  let (exponent, rest) := readExponent behindFraction
  if fraction.isEmpty && exponent.isNone then
    guard (whole.length ≤ digitLimit)
    let value : Int := Text.digitsValue whole
    return (.integer (if negative then -value else value), rest)
  else
    return (.double (Numeral.toFloat ⟨negative, whole, fraction, exponent.getD 0⟩), rest)

/-- A word, or a number that may have a minus sign. -/
def readScalar (text : Text) : Option (Json × Text) :=
  let word (spelling : String) (value : Json) : Option (Json × Text) :=
    (Text.after? spelling.toList text).map fun rest => (value, rest)
  match text with
  | [] => none
  | 'n' :: _ => word "null" .null
  | 't' :: _ => word "true" (.boolean true)
  | 'f' :: _ => word "false" (.boolean false)
  | 'N' :: _ => word "NaN" (.double (0.0 / 0.0))
  | 'I' :: _ => word "Infinity" (.double (1.0 / 0.0))
  | '-' :: 'I' :: _ => word "-Infinity" (.double (-1.0 / 0.0))
  | '-' :: rest => readNumber true rest
  | _ => readNumber false text

mutual

/-- One value at the front of the text, and what follows it.  `fuel` bounds the steps and `depth`
the nesting. -/
def readValue (fuel depth : Nat) (text : Text) : Option (Json × Text) :=
  match fuel with
  | 0 => none
  | fuel + 1 =>
    match text with
    | '"' :: rest => (readCodes rest).map fun (codes, behind) => (.text (joinHalves codes), behind)
    | '[' :: rest =>
      match depth, skipSpace rest with
      | 0, _ => none
      | _ + 1, ']' :: behind => some (.array [], behind)
      | depth + 1, start =>
        (readItems fuel depth start).map fun (items, behind) => (.array items, behind)
    | '\x7b' :: rest =>
      match depth, skipSpace rest with
      | 0, _ => none
      | _ + 1, '\x7d' :: behind => some (.object [], behind)
      | depth + 1, start =>
        (readFields fuel depth start).map fun (fields, behind) =>
          (.object (fields.foldl (fun known (name, value) => setField name value known) []), behind)
    | _ => readScalar text

/-- The items of an array up to its closing bracket. -/
def readItems (fuel depth : Nat) (text : Text) : Option (List Json × Text) :=
  match fuel with
  | 0 => none
  | fuel + 1 =>
    match readValue fuel depth text with
    | none => none
    | some (item, rest) =>
      match skipSpace rest with
      | ',' :: rest =>
        (readItems fuel depth (skipSpace rest)).map fun (items, behind) => (item :: items, behind)
      | ']' :: behind => some ([item], behind)
      | _ => none

/-- The fields of an object up to its closing brace. -/
def readFields (fuel depth : Nat) (text : Text) : Option (List (Text × Json) × Text) :=
  match fuel with
  | 0 => none
  | fuel + 1 =>
    match text with
    | '"' :: rest =>
      match readCodes rest with
      | none => none
      | some (codes, behindName) =>
        match skipSpace behindName with
        | ':' :: start =>
          match readValue fuel depth (skipSpace start) with
          | none => none
          | some (value, rest) =>
            let field := (joinHalves codes, value)
            match skipSpace rest with
            | ',' :: rest =>
              (readFields fuel depth (skipSpace rest)).map fun (fields, behind) =>
                (field :: fields, behind)
            | '\x7d' :: behind => some ([field], behind)
            | _ => none
        | _ => none
    | _ => none

end

/-- The value that a whole text writes; none if the text is not JSON.  Every second step consumes a
character, which bounds the steps. -/
def read? (text : Text) : Option Json :=
  match readValue (2 * text.length + 2) nestingLimit (skipSpace text) with
  | some (value, rest) => if (skipSpace rest).isEmpty then some value else none
  | none => none

end StepScript.Json

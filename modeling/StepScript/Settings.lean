import StepScript.Fault
import StepScript.Json.Basic
import StepScript.Run.Machine

/-!
# Settings

Callers may ask for lower limits than the standard ones, never for higher ones.  A setting is any
JSON value that reads as an integer: a number, which loses its fraction, a truth value, or a text.
-/

namespace StepScript

/-- Why a setting is no integer: its text does not write one, or has more digits than are read. -/
inductive SettingFault where
  | notAnInteger (text : Text)
  | tooManyDigits (count : Nat)
  | infinite
  | notANumber
  | null
  | array
  | object
  deriving DecidableEq

namespace Settings

/-- Texts may write integers with this many digits. -/
def digitLimit : Nat :=
  4300

/-- As much of a text, in quotes, as a message shows. -/
def shownText (text : Text) : Text :=
  (Text.quoted text).take 200

end Settings

def SettingFault.message : SettingFault → String
  | .notAnInteger text =>
    s!"invalid literal for int() with base 10: {Text.string (Settings.shownText text)}"
  | .tooManyDigits count =>
    s!"Exceeds the limit ({Settings.digitLimit} digits) for integer string conversion: " ++
      s!"value has {count} digits; use sys.set_int_max_str_digits() to increase the limit"
  | .infinite => "cannot convert float infinity to integer"
  | .notANumber => "cannot convert float NaN to integer"
  | .null => wrongKind "NoneType"
  | .array => wrongKind "list"
  | .object => wrongKind "dict"
where
  /-- The wording for a value of a kind that is never an integer. -/
  wrongKind (kind : String) : String :=
    s!"int() argument must be a string, a bytes-like object or a real number, not '{kind}'"

namespace Settings

/-- Blanks that may stand around an integer.  The information separators are no such blanks. -/
def isPadding (char : Char) : Bool :=
  Text.isBlank char && !(28 ≤ char.toNat && char.toNat ≤ 31)

/-- Whether digits are joined by single underscores that have digits on both sides. -/
def wellJoined (digits : Text) : Bool :=
  (Text.splitAtEach '_' digits).all (!·.isEmpty)

/-- The integer that a text writes: a sign, and digits of any script that may be joined by single
underscores.  Too many digits are noticed before anything behind them is looked at. -/
def readInteger (text : Text) : Except SettingFault Int :=
  let (negative, unsigned) := Numeral.takeSign (text.dropWhile isPadding)
  let isPart (char : Char) : Bool := Text.isDigit char || char == '_'
  let written := unsigned.takeWhile isPart
  let behind := unsigned.dropWhile isPart
  let digits := written.filter Text.isDigit
  if !wellJoined written then .error (.notAnInteger text)
  else if digitLimit < digits.length then .error (.tooManyDigits digits.length)
  else if !behind.all isPadding then .error (.notAnInteger text)
  else
    let value : Int := Text.digitsValue digits
    .ok (if negative then -value else value)

/-- The integer that a setting stands for. -/
def integer : Json → Except SettingFault Int
  | .integer value => .ok value
  | .boolean value => .ok (if value then 1 else 0)
  | .text text => readInteger text
  | .double value =>
    match Dyadic.ofFloat? value with
    | some fraction => .ok fraction.truncate
    | none => .error (if value.isNaN then .notANumber else .infinite)
  | .null => .error .null
  | .array _ => .error .array
  | .object _ => .error .object

/-- A setting under a ceiling, which also holds if the setting is not given. -/
def capped (name : String) (ceiling : Int) (settings : Json) : Except SettingFault Int :=
  match settings.field? name with
  | none => .ok ceiling
  | some setting => (integer setting).map (min · ceiling)

/-- The limits for settings.  They never exceed the standard ones. -/
def limits (settings : Json) : Except SettingFault Limits := do
  let maxSteps ← capped "max_steps" Limits.standard.maxSteps settings
  let maxLoop ← capped "max_loop" Limits.standard.maxLoop settings
  return ⟨maxSteps, maxLoop⟩

end Settings

end StepScript

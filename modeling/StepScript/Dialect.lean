import StepScript.Text.Word

/-!
# Foreign dialects

Scripts written for another dialect could run and give wrong answers, so a script that holds one of
its constructs is rejected before it runs.  A construct counts wherever it occurs, also inside a
comment, as long as it does not continue a word.
-/

namespace StepScript.Dialect

/-- A construct that scripts must not hold. -/
inductive Rule where
  | selfAccess
  | definition
  | classBody
  | capitalizedConstant
  | printCall
  | rangeCall
  deriving DecidableEq, Repr

namespace Rule

/-- All rules, in the order in which they are tried. -/
def all : List Rule :=
  [.selfAccess, .definition, .classBody, .capitalizedConstant, .printCall, .rangeCall]

def construct : Rule → String
  | .selfAccess => "self."
  | .definition => "def"
  | .classBody => "class"
  | .capitalizedConstant => "True/False/None"
  | .printCall => "print()"
  | .rangeCall => "range()"

/-- What to write in place of the construct. -/
def suggestion : Rule → String
  | .selfAccess => "plain variables"
  | .definition | .classBody => "top-level statements"
  | .capitalizedConstant => "true, false, null"
  | .printCall => "console.log() or variables"
  | .rangeCall => "for (let i = 0; i < n; i++)"

/-- Why a script with the construct is rejected. -/
def message : Rule → String
  | .selfAccess | .definition | .classBody =>
    "Python syntax detected. Please use JavaScript syntax only."
  | .capitalizedConstant => "Python keywords detected. Use JavaScript: true, false, null"
  | .printCall => "Use JavaScript syntax. Replace print() with console.log() or variables"
  | .rangeCall => "Python range() not supported. Use: for (let i = 0; i < n; i++)"

/-- Whether the text begins with a word and then with a character of a class. -/
def wordThen (word : String) (accepts : Char → Bool) (text : Text) : Bool :=
  match Text.after? word.toList text with
  | some (char :: _) => accepts char
  | _ => false

/-- Whether the text begins with a word that does not go on. -/
def wholeWord (word : String) (text : Text) : Bool :=
  match Text.after? word.toList text with
  | some [] => true
  | some (char :: _) => !Text.isWord char
  | none => false

/-- Whether the text begins with the construct. -/
def startsAt (rule : Rule) (text : Text) : Bool :=
  match rule with
  | .selfAccess => wordThen "self" (· == '.') text
  | .definition => wordThen "def" Text.isBlank text
  | .classBody => wordThen "class" Text.isBlank text
  | .capitalizedConstant =>
    wholeWord "True" text || wholeWord "False" text || wholeWord "None" text
  | .printCall =>
    match Text.after? "print".toList text with
    | some rest => (rest.dropWhile Text.isBlank).head? == some '('
    | none => false
  | .rangeCall => wordThen "range" (· == '(') text

/-- Whether the construct begins somewhere in the text, at a place that does not continue a word.
`insideWord` tells whether the character in front of the text is a word character. -/
def occursFrom (rule : Rule) (insideWord : Bool) : Text → Bool
  | [] => false
  | char :: rest =>
    (!insideWord && rule.startsAt (char :: rest)) || rule.occursFrom (Text.isWord char) rest

def occurs (rule : Rule) (script : Text) : Bool :=
  rule.occursFrom false script

end Rule

/-- The first rule that a script breaks. -/
def violation? (script : Text) : Option Rule :=
  Rule.all.find? (·.occurs script)

end StepScript.Dialect

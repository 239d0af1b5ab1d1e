import StepScript.Comparator

/-!
# Statements

What a line of a script can say.  A line that says none of it is kept as unrecognized.
-/

namespace StepScript

/-- The word that opens a declaration. -/
inductive Keyword where
  | letWord
  | varWord
  | constWord
  deriving DecidableEq, Repr

def Keyword.spelling : Keyword → Text
  | .letWord => ['l', 'e', 't']
  | .varWord => ['v', 'a', 'r']
  | .constWord => ['c', 'o', 'n', 's', 't']

/-- The three clauses of a loop: where the variable starts, how long the loop goes on, and by how
much the variable changes after each round. -/
structure LoopHeader where
  counter : Text
  start : Text
  tested : Text
  comparator : Comparator
  bound : Text
  increment : Text
  step : Float
  deriving DecidableEq

/-- A statement of the script language. -/
inductive Statement where
  | blank
  | comment (text : Text)
  | declaration (name expression : Text) (keyword : Keyword)
  | loop (header : LoopHeader)
  | assignment (name expression : Text) (index : Option Text)
  | conditional (condition : Text)
  | unrecognized (text : Text)
  deriving DecidableEq

/-- A line without the blanks in front of it, the comment at its end, and the blanks and semicolons
before that. -/
def stripStatement (line : Text) : Text :=
  Text.dropEnd (fun char => char == ';' || Text.isBlank char) (beforeComment (Text.trimStart line))
where
  /-- The text in front of the first two slashes. -/
  beforeComment : Text → Text
    | '/' :: '/' :: _ => []
    | char :: rest => char :: beforeComment rest
    | [] => []

/-- Whether a line holds nothing but a brace, or nothing at all. -/
def isBraceOnly (line : Text) : Bool :=
  match stripStatement line with
  | [] => true
  | [char] => char == '\x7b' || char == '\x7d'
  | _ => false

end StepScript

import StepScript.Text.Name

/-!
# Tokens of expressions

An expression is read as a list of tokens.  Each token knows where it stands in the source, counted
in characters, and how many brackets are open behind it.
-/

namespace StepScript

/-- A stretch of a source: the first position in it and the first one behind it. -/
structure Span where
  start : Nat
  stop : Nat
  deriving DecidableEq, Repr, Inhabited

/-- The part of a source that a span covers. -/
def Span.of (span : Span) (source : Text) : Text :=
  (source.drop span.start).take (span.stop - span.start)

/-- A quoted text in an expression, and what the letters in front of it say about it. -/
structure Quotation where
  isBytes : Bool
  isRaw : Bool
  isFormatted : Bool
  content : Text
  deriving DecidableEq

/-- What a token is.  A long integer has more digits than are read, and a stray backslash does not
join two lines. -/
inductive TokenKind where
  | name (spelling : Text)
  | word (spelling : Text)
  | integer (value : Nat)
  | longInteger
  | double (value : Float)
  | imaginary
  | quotation (quoted : Quotation)
  | mark (symbol : Text)
  | newline
  | indentation (width : Nat)
  | strayBackslash (offset : Nat)
  | finish
  deriving DecidableEq

def TokenKind.isName : TokenKind → Bool
  | .name _ => true
  | _ => false

/-- A token in its place.  The depth is how many brackets are open behind it. -/
structure Token where
  kind : TokenKind
  span : Span
  depth : Nat
  deriving DecidableEq

namespace Token

/-- The words that no variable can be called. -/
def reservedWords : List Text :=
  ["False", "None", "True", "and", "as", "assert", "async", "await", "break", "class", "continue",
    "def", "del", "elif", "else", "except", "finally", "for", "from", "global", "if", "import",
    "in", "is", "lambda", "nonlocal", "not", "or", "pass", "raise", "return", "try", "while",
    "with", "yield"].map String.toList

/-- The words that only some constructs reserve. -/
def softWords : List Text :=
  ["_", "case", "match"].map String.toList

def tripleMarks : List Text :=
  ["**=", "//=", ">>=", "<<=", "..."].map String.toList

def doubleMarks : List Text :=
  ["!=", "%=", "&=", "**", "*=", "+=", "-=", "->", "//", "/=", ":=", "<<", "<=", "<>", "==", ">=",
    ">>", "@=", "^=", "|="].map String.toList

/-- Characters that a name may begin with, before it is checked: beyond ASCII, any. -/
def opensName (char : Char) : Bool :=
  128 ≤ char.toNat || char.isAlpha || char == '_'

/-- Characters that a name may go on with, before it is checked: beyond ASCII, any. -/
def continuesName (char : Char) : Bool :=
  128 ≤ char.toNat || char.isAlphanum || char == '_'

/-- The position of the first character that makes a spelling no name. -/
def badCharacter? (spelling : Text) : Option Nat :=
  match spelling with
  | [] => none
  | first :: rest =>
    if Text.isNameStart first then
      (rest.findIdx? fun char => !Text.isNameRest char).map (· + 1)
    else some 0

/-- The closing bracket that answers an opening one. -/
def closer? (char : Char) : Option Char :=
  match char with
  | '(' => some ')'
  | '[' => some ']'
  | '\x7b' => some '\x7d'
  | _ => none

def isCloser (char : Char) : Bool :=
  char == ')' || char == ']' || char == '\x7d'

end Token

end StepScript

import StepScript.Statement.Basic
import StepScript.Number.Numeral
import StepScript.Text.Word

/-!
# Patterns of statements

Each kind of statement has one recogniser, which takes a whole line apart or refuses it.  Where a
line can be taken apart in several ways, the choice is fixed: blanks are skipped as far as the rest
allows, a clause of a loop ends at the first semicolon that lets the rest match, and an index or a
condition ends at the last bracket that does.
-/

namespace StepScript.Pattern

/-- Tries what follows after skipping blanks at the front, first all of them and then ever fewer. -/
def afterBlanks {α : Type} (next : Text → Option α) : Text → Option α
  | [] => next []
  | char :: rest =>
    if Text.isBlank char then afterBlanks next rest <|> next (char :: rest) else next (char :: rest)

def blanks? : Text → Option Text
  | [] => none
  | char :: rest => if Text.isBlank char then some (rest.dropWhile Text.isBlank) else none

/-- A name at the front: an ASCII letter or an underscore, and then word characters. -/
def name? : Text → Option (Text × Text)
  | [] => none
  | char :: rest =>
    if char.isAlpha || char == '_' then
      some (char :: rest.takeWhile Text.isWord, rest.dropWhile Text.isWord)
    else none

/-- A given character behind blanks. -/
def mark? (mark : Char) (text : Text) : Option Text :=
  match text.dropWhile Text.isBlank with
  | [] => none
  | char :: rest => if char = mark then some rest else none

/-- A text that fills the rest of a line, less one line feed at its end. -/
def restOfLine? (text : Text) : Option Text :=
  let line := text.takeWhile (· != '\n')
  match text.dropWhile (· != '\n') with
  | [] | ['\n'] => if line.isEmpty then none else some line
  | _ => none

/-- The right side of an equals sign, which must not be followed by another one. -/
def rightSide? : Text → Option Text
  | '=' :: '=' :: _ => none
  | '=' :: rest => (afterBlanks restOfLine? rest).map Text.trim
  | _ => none

def keyword? (text : Text) : Option (Keyword × Text) :=
  [.letWord, .varWord, .constWord].findSome? fun keyword : Keyword =>
    (Text.after? keyword.spelling text).map fun rest => (keyword, rest)

/-- A keyword, a name and the value it is given. -/
def declaration? (text : Text) : Option Statement := do
  let (keyword, afterKeyword) ← keyword? text
  let (name, afterName) ← name? (← blanks? afterKeyword)
  let expression ← rightSide? (afterName.dropWhile Text.isBlank)
  return .declaration name expression keyword

/-- The text up to a semicolon, without the blanks in front of the semicolon.  Shorter clauses are
tried first.  `taken` holds what the clause has so far, last character first. -/
def clauseFrom {α : Type} (next : Text → Text → Option α) (taken : Text) : Text → Option α
  | [] => none
  | char :: rest =>
    if char = '\n' then none
    else
      let taken := char :: taken
      (mark? ';' rest).bind (next taken.reverse) <|> clauseFrom next taken rest

/-- A clause behind blanks.  `next` gets the clause and what follows its semicolon. -/
def clause {α : Type} (next : Text → Text → Option α) (text : Text) : Option α :=
  afterBlanks (clauseFrom next []) text

/-- The digits of a loop step, with at least one digit behind a point. -/
def stepDigits? (text : Text) : Option (Text × Text × Text) :=
  let whole := text.takeWhile Text.isDigit
  match text.dropWhile Text.isDigit with
  | '.' :: places =>
    let fraction := places.takeWhile Text.isDigit
    if fraction.isEmpty then none else some (whole, fraction, places.dropWhile Text.isDigit)
  | rest => if whole.isEmpty then none else some (whole, [], rest)

/-- How a loop changes its variable.  A doubled sign has no amount. -/
structure Increment where
  negative : Bool
  amount : Option (Text × Numeral)

/-- An increment, and what follows it. -/
def increment? : Text → Option (Increment × Text)
  | '+' :: '+' :: rest => some (⟨false, none⟩, rest)
  | '-' :: '-' :: rest => some (⟨true, none⟩, rest)
  | sign :: '=' :: rest => do
    guard (sign = '+' ∨ sign = '-')
    let blanks := rest.takeWhile Text.isBlank
    let (whole, fraction, behind) ← stepDigits? (rest.dropWhile Text.isBlank)
    let point := if fraction.isEmpty then [] else '.' :: fraction
    return (⟨sign = '-', some (blanks ++ whole ++ point, ⟨false, whole, fraction, 0⟩)⟩, behind)
  | _ => none

/-- The written form of an increment, without its spaces. -/
def Increment.text (increment : Increment) : Text :=
  let sign := if increment.negative then '-' else '+'
  match increment.amount with
  | none => [sign, sign]
  | some (amount, _) => sign :: '=' :: amount.filter (· != ' ')

/-- The signed change.  Blanks in front of the digits are skipped, but not the information
separators. -/
def Increment.step (increment : Increment) : Except Breakdown Float :=
  match increment.amount with
  | none => .ok (if increment.negative then -1 else 1)
  | some (amount, numeral) =>
    if amount.any fun char => 28 ≤ char.toNat && char.toNat ≤ 31 then
      .error (.unreadableStep (amount.filter (· != ' ')))
    else .ok (if increment.negative then -numeral.toFloat else numeral.toFloat)

/-- Whether the rest of a header is empty or opens the block on the same line. -/
def closesHeader (text : Text) : Bool :=
  match text.dropWhile Text.isBlank with
  | [] => true
  | '\x7b' :: rest => (restOfLine? ('\x7b' :: rest)).isSome
  | _ => false

/-- A comparison symbol at the front, together with a shorter symbol to fall back on. -/
def comparator {α : Type} (next : Comparator → Text → Option α) : Text → Option α
  | '<' :: '=' :: rest => next .atMost rest <|> next .less ('=' :: rest)
  | '>' :: '=' :: rest => next .atLeast rest <|> next .greater ('=' :: rest)
  | '=' :: '=' :: rest => next .equal rest
  | '!' :: '=' :: rest => next .unequal rest
  | '<' :: rest => next .less rest
  | '>' :: rest => next .greater rest
  | _ => none

/-- The parts of a loop header before its step is read. -/
structure HeaderParts where
  counter : Text
  start : Text
  tested : Text
  comparator : Comparator
  bound : Text
  stepped : Text
  increment : Increment

/-- The last clause of a header and the end of the line. -/
def lastClause? (text : Text) : Option (Text × Increment) := do
  let (stepped, afterStepped) ← name? (text.dropWhile Text.isBlank)
  let (increment, afterIncrement) ← increment? (afterStepped.dropWhile Text.isBlank)
  guard (closesHeader (← mark? ')' afterIncrement))
  return (stepped, increment)

def laterClauses? (counter start text : Text) : Option HeaderParts := do
  let (tested, afterTested) ← name? (text.dropWhile Text.isBlank)
  comparator (fun comparator afterSymbol =>
    clause (fun bound afterBound =>
      (lastClause? afterBound).map fun (stepped, increment) =>
        { counter, start, tested, comparator, bound, stepped, increment })
      afterSymbol)
    (afterTested.dropWhile Text.isBlank)

/-- The three clauses of a header, from the loop counter to the end of the line. -/
def headerParts? (text : Text) : Option HeaderParts := do
  let (counter, afterCounter) ← name? text
  clause (laterClauses? counter) (← mark? '=' afterCounter)

/-- The parts of a loop header.  The counter may be declared in place. -/
def header? (text : Text) : Option HeaderParts := do
  let inside ← mark? '(' (← Text.after? ['f', 'o', 'r'] text)
  let first := inside.dropWhile Text.isBlank
  let declared (keyword : Keyword) : Option HeaderParts := do
    headerParts? (← blanks? (← Text.after? keyword.spelling first))
  declared .letWord <|> declared .varWord <|> headerParts? first

/-- A loop header.  The counter has to be the one that the last clause changes. -/
def loop? (text : Text) : Except Breakdown (Option Statement) :=
  match header? text with
  | none => .ok none
  | some parts =>
    if parts.stepped = parts.counter then do
      let step ← parts.increment.step
      return some (.loop
        { counter := parts.counter
          start := parts.start
          tested := parts.tested
          comparator := parts.comparator
          bound := parts.bound
          increment := parts.increment.text
          step })
    else .ok none

/-- A condition in parentheses, with nothing but an opening brace behind it. -/
def conditional? (text : Text) : Option Statement := do
  let inside ← mark? '(' (← Text.after? ['i', 'f'] text)
  let (condition, behind) ← Text.splitAtLast? ')' inside
  guard (!condition.isEmpty && !condition.contains '\n')
  match behind.dropWhile Text.isBlank with
  | [] | ['\x7b'] | ['\x7b', '\n'] => return .conditional (Text.trim condition)
  | _ => none

/-- The operator of an assignment and its right side: the sign of a compound assignment, if there
is one, and the expression. -/
def assigned? (text : Text) : Option (Option Char × Text) :=
  match text.dropWhile Text.isBlank with
  | [] => none
  | char :: rest =>
    if char = '-' ∨ char = '+' ∨ char = '*' ∨ char = '/' then
      (rightSide? rest).map fun expression => (some char, expression)
    else (rightSide? (char :: rest)).map fun expression => (none, expression)

/-- An index up to the last closing bracket that leaves an assignment behind it. -/
def indexed? : Text → Option (Text × Option Char × Text)
  | [] => none
  | char :: rest =>
    if char = '\n' then none
    else
      match indexed? rest with
      | some (index, found) => some (char :: index, found)
      | none =>
        match rest with
        | ']' :: behind => (assigned? behind).map fun found => ([char], found)
        | _ => none

/-- An assignment to a variable or to a cell of an array.  A compound assignment becomes a plain
one, whose expression applies the operator to the old value. -/
def assignment? (text : Text) : Option Statement := do
  let (name, afterName) ← name? text
  let start := afterName.dropWhile Text.isBlank
  let (index, sign, expression) ←
    match start with
    | '[' :: inside => (indexed? inside).map fun (index, found) => (some index, found)
    | _ => (assigned? start).map fun found => (none, found)
  let target :=
    match index with
    | some index => name ++ '[' :: index ++ [']']
    | none => name
  let expression :=
    match sign with
    | some sign => target ++ ' ' :: sign :: ' ' :: '(' :: expression ++ [')']
    | none => expression
  return .assignment name expression (index.map Text.trim)

end StepScript.Pattern

import StepScript.Expression.Lexer

/-!
# Reading with alternatives

A reader takes tokens from a cursor.  Where an expression can go on in several ways, the ways are
tried in order, and a way that is refused leaves the cursor where it was.  What has been read at a
place is noted, so that no phrase is read twice.  A reader also notes how far ahead it has looked,
because a source that cannot be read at all goes wrong at the last token that was looked at.
-/

namespace StepScript

/-- What is remembered of an expression that has been read.  A place is a property or a cell, and a
comparison counts as a membership if this is what its first operator asks for. -/
inductive Phrase where
  | name (span : Span) (spelling : Text)
  | place (span : Span)
  | sequence (span : Span) (items : List Phrase)
  | starred (span : Span) (value : Phrase)
  | membership (span : Span) (left : Phrase)
  | comparison (span : Span)
  | other (span : Span)

def Phrase.span : Phrase → Span
  | .name span _ | .place span | .sequence span _ | .starred span _ | .membership span _
  | .comparison span | .other span => span

namespace Reading

/-- What can be read at a place. -/
inductive Rule where
  | named
  | namedMistake
  | expression
  | disjunction
  | conjunction
  | inversion
  | comparison
  | bitOr
  | bitXor
  | bitAnd
  | shift
  | sum
  | term
  | factor
  | power
  | awaited
  | primary
  | atom
  | starExpression
  | arguments
  | target
  | targetPlace
  | targetPrimary
  deriving DecidableEq

/-- Whether what has been read is noted. -/
def Rule.isNoted : Rule → Bool
  | .named | .comparison | .power | .atom => false
  | _ => true

/-- What is to blame for a source that cannot be read.  A backslash that joins no lines is blamed at
an offset. -/
inductive Blame where
  | offset (place : Nat)
  | latest
  | openBracket
  | column (number : Nat)
  | character
  | backslash (place : Nat)

/-- Why a reader stops.  Where it is refused, another way may still lead on. -/
inductive Halt where
  | refused
  | blamed (what : Blame)

/-- Where a reader stands.  `left` is the fewest tokens that were ahead when it looked at one,
`searching` whether common mistakes are looked for, and `notes` what has been read in front of how
many tokens. -/
structure State where
  ahead : List Token
  last : Option Token
  left : Nat
  unclosed : Bool
  searching : Bool
  notes : Array (List (Rule × Option (Phrase × List Token × Option Token)))

end Reading

/-- Readers keep their state when they stop. -/
abbrev Reader := ExceptT Reading.Halt (StateM Reading.State)

namespace Reading

def State.start (tokens : List Token) (unclosed searching : Bool) : State :=
  ⟨tokens, none, tokens.length, unclosed, searching, Array.replicate (tokens.length + 1) []⟩

/-- Gives up this way. -/
def refuse {α : Type} : Reader α :=
  throw .refused

/-- Stops for good. -/
def blame {α : Type} (what : Blame) : Reader α :=
  throw (.blamed what)

/-- Blames a place. -/
def blameAt {α : Type} (place : Nat) : Reader α :=
  blame (.offset place)

/-- Runs a reader, and puts the cursor back if it is refused. -/
def attempt {α : Type} (reader : Reader α) : Reader (Option α) := fun state =>
  match reader state with
  | (.ok value, reached) => (.ok (some value), reached)
  | (.error .refused, reached) =>
    (.ok none, { reached with ahead := state.ahead, last := state.last })
  | (.error halt, reached) => (.error halt, reached)

/-- Whether a reader succeeds.  The cursor stays where it is. -/
def succeeds {α : Type} (reader : Reader α) : Reader Bool := fun state =>
  match attempt reader state with
  | (.ok found, reached) =>
    (.ok found.isSome, { reached with ahead := state.ahead, last := state.last })
  | (.error halt, reached) => (.error halt, reached)

/-- The first of several ways that is not refused. -/
def firstOf {α : Type} : List (Reader α) → Reader α
  | [] => refuse
  | way :: others => do
    match ← attempt way with
    | some value => return value
    | none => firstOf others

/-- Looks for a mistake, if mistakes are looked for.  A mistake is blamed, so this never leads
on. -/
def searched {α : Type} (mistake : Reader Unit) : Reader α := do
  if (← get).searching then
    let _ ← attempt mistake
  refuse

def quietly {α : Type} (reader : Reader α) : Reader α := fun state =>
  let (result, reached) := reader { state with searching := false }
  (result, { reached with searching := state.searching })

/-- Reads what a rule describes, unless it has been read at this place before. -/
def noted (rule : Rule) (reader : Reader Phrase) : Reader Phrase := do
  let state ← get
  let place := state.ahead.length
  match (state.notes.getD place []).lookup rule with
  | some (some (phrase, ahead, last)) =>
    set { state with ahead, last }
    return phrase
  | some none => refuse
  | none =>
    let found ← attempt reader
    modify fun reached =>
      let note := found.map fun phrase => (phrase, reached.ahead, reached.last)
      { reached with notes := reached.notes.modify place ((rule, note) :: ·) }
    match found with
    | some phrase => return phrase
    | none => refuse

def look : Reader Token := do
  let state ← get
  set { state with left := min state.left state.ahead.length }
  match state.ahead with
  | [] => blame .character
  | token :: _ =>
    match token.kind with
    | .finish => if state.unclosed then blame .openBracket else return token
    | .strayBackslash offset => blame (.backslash offset)
    | _ => return token

/-- Where the next token starts. -/
def position : Reader Nat := do
  return (← look).span.start

/-- Takes the next token. -/
def advance : Reader Token := do
  let token ← look
  modify fun state => { state with ahead := state.ahead.tail, last := some token }
  return token

/-- The span from a place up to the token that was read last. -/
def spanFrom (start : Nat) : Reader Span := do
  return ⟨start, ((← get).last.map fun token => token.span.stop).getD start⟩

/-- Takes a token of a kind. -/
def expect (kind : TokenKind) : Reader Token := do
  if (← look).kind = kind then advance else refuse

/-- Takes a token with one of several kinds. -/
def expectAny (kinds : List TokenKind) : Reader Token := do
  if kinds.contains (← look).kind then advance else refuse

/-- Takes a token of a kind, if it comes next. -/
def take? (kind : TokenKind) : Reader Bool := do
  if (← look).kind = kind then
    let _ ← advance
    return true
  else return false

/-- Whether a token of a kind comes next. -/
def at? (kind : TokenKind) : Reader Bool := do
  return (← look).kind = kind

def mark (symbol : String) : TokenKind :=
  .mark symbol.toList

def word (spelling : String) : TokenKind :=
  .word spelling.toList

def name : Reader Phrase := do
  match (← look).kind with
  | .name spelling =>
    let token ← advance
    return .name token.span spelling
  | _ => refuse

/-- Repeats a reader as often as it leads on, at most a number of times. -/
def repeated {α : Type} (reader : Reader α) : Nat → Reader (List α)
  | 0 => return []
  | count + 1 => do
    match ← attempt reader with
    | some value => return value :: (← repeated reader count)
    | none => return []

/-- Repeats a reader as often as it leads on.  Each time it takes a token. -/
def many {α : Type} (reader : Reader α) : Reader (List α) := do
  repeated reader (← get).ahead.length

def some1 {α : Type} (reader : Reader α) : Reader (List α) := do
  return (← reader) :: (← many reader)

/-- Items with commas between them, at least one. -/
def separated {α : Type} (item : Reader α) : Reader (List α) := do
  let first ← item
  let others ← many do
    let _ ← expect (mark ",")
    item
  return first :: others

/-- Extends a phrase as long as that leads on, at most a number of times. -/
def extended (step : Phrase → Reader Phrase) : Nat → Phrase → Reader Phrase
  | 0, phrase => return phrase
  | count + 1, phrase => do
    match ← attempt (step phrase) with
    | some longer => extended step count longer
    | none => return phrase

/-- A phrase, extended as long as that leads on. -/
def growing (first : Reader Phrase) (step : Phrase → Reader Phrase) : Reader Phrase := do
  extended step (← get).ahead.length (← first)

end Reading

end StepScript

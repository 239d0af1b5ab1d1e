import StepScript.Expression.Formatted
import StepScript.Expression.Lexer
import StepScript.Expression.Tree

/-!
# Parsing expressions

The grammar is a ladder of levels.  Each level is parsed by a function that is given a parser for
any level, so that the recursion is tied in one place, where the number of nested calls is
bounded.  No alternative is ever taken back: the next token or two decide how an expression goes on.
-/

namespace StepScript

/-- Where a parser stands: the tokens ahead, and where the token behind it ends. -/
structure Cursor where
  ahead : List Token
  behind : Nat

inductive ParseFailure where
  | unreadable
  | nestedTooDeeply
  | longInteger

/-- Parsers read tokens from a cursor. -/
abbrev Parser := StateT Cursor (Except ParseFailure)

namespace Parser

/-- Precedence levels, from the loosest to the tightest. -/
inductive Level where
  | named
  | expression
  | disjunction
  | conjunction
  | inversion
  | comparison
  | bitOr
  | bitXor
  | bitAnd
  | shift
  | sum
  | term
  | factor
  | power
  | awaited
  | primary
  | atom
  deriving DecidableEq, Repr

/-- A parser for every level. -/
abbrev Ladder := Level → Parser Tree

/-- The kind of the next token. -/
def peek : Parser TokenKind := do
  match (← get).ahead with
  | token :: _ => return token.kind
  | [] => return .finish

/-- The kind of the token after the next one. -/
def peekSecond : Parser TokenKind := do
  match (← get).ahead with
  | _ :: token :: _ => return token.kind
  | _ => return .finish

/-- Where the next token starts. -/
def position : Parser Nat := do
  let cursor ← get
  match cursor.ahead with
  | token :: _ => return token.span.start
  | [] => return cursor.behind

/-- The span from a position up to the last token read. -/
def spanFrom (start : Nat) : Parser Span := do
  return ⟨start, (← get).behind⟩

/-- Reads one token. -/
def advance : Parser Unit := do
  let cursor ← get
  match cursor.ahead with
  | token :: rest => set (Cursor.mk rest token.span.stop)
  | [] => return ()

/-- Fails, because no expression goes on here. -/
def fail {α : Type} : Parser α :=
  throw .unreadable

/-- Reads the next token if it is of a kind. -/
def take? (kind : TokenKind) : Parser Bool := do
  if (← peek) = kind then
    advance
    return true
  else return false

def mark (symbol : String) : TokenKind :=
  .mark symbol.toList

def word (spelling : String) : TokenKind :=
  .word spelling.toList

/-- Reads a token of a kind. -/
def expect (kind : TokenKind) : Parser Unit := do
  unless ← take? kind do fail

/-- Whether the next token is of a kind. -/
def at? (kind : TokenKind) : Parser Bool := do
  return (← peek) = kind

/-- Goes on with a value as long as there is a next one. -/
def extendWith {α : Type} (next : α → Parser (Option α)) : Nat → α → Parser α
  | 0, value => return value
  | fuel + 1, value => do
    match ← next value with
    | some value => extendWith next fuel value
    | none => return value

/-- Goes on with a value as long as there is a next one.  Each round reads a token, so the number of
tokens ahead is enough fuel. -/
def extend {α : Type} (next : α → Parser (Option α)) (value : α) : Parser α := do
  match ← next value with
  | some value => extendWith next (← get).ahead.length value
  | none => return value

/-- Operands of one level with operators between them, grouped to the left. -/
def leftChain (operator? : TokenKind → Option BinaryOperator) (operand : Parser Tree) :
    Parser Tree := do
  let start ← position
  let first ← operand
  extend (fun left => do
    match operator? (← peek) with
    | some operator =>
      advance
      let right ← operand
      return some (.binary (← spanFrom start) operator left right)
    | none => return none) first

def operatorIn (operators : List (String × BinaryOperator)) (kind : TokenKind) :
    Option BinaryOperator :=
  (operators.find? fun entry => mark entry.1 = kind).map Prod.snd

/-- Operands with a reserved word between them, which makes the whole a rejected construct. -/
def logicalChain (operator : TokenKind) (operand : Parser Tree) : Parser Tree := do
  let start ← position
  let first ← operand
  extend (fun _ => do
    if ← take? operator then
      let _ ← operand
      return some (.rejected (← spanFrom start) .logical)
    else return none) first

/-- Items behind a first one, up to a closing token, which is not read.  A comma may stand behind
the last item. -/
def moreItems (item : Parser Tree) (closes : TokenKind → Bool) (first : Tree) :
    Parser (List Tree) := do
  let items ← extend (fun items => do
    if ← take? (mark ",") then
      if closes (← peek) then return none
      else return some ((← item) :: items)
    else return none) [first]
  return items.reverse

/-- The marks that close a bracket. -/
def closes (kind : TokenKind) : Bool :=
  kind == mark ")" || kind == mark "]" || kind == mark "\x7d"

variable (sub : Ladder)

def starredItem : Parser Tree := do
  let start ← position
  if ← take? (mark "*") then
    let value ← sub .bitOr
    return .unsupported (← spanFrom start) .starred [value]
  else sub .named

mutual

/-- What a comprehension can bind: names, places in values, and groups of these. -/
def bindable : Tree → Bool
  | .name _ _ | .attribute _ _ _ | .subscript _ _ _ => true
  | .list _ items => bindableItems items
  | .unsupported _ construct items =>
    (construct == .tuple || construct == .starred) && bindableItems items
  | _ => false

/-- Whether a comprehension can bind all items of a group. -/
def bindableItems : List Tree → Bool
  | [] => true
  | item :: rest => bindable item && bindableItems rest

end

def target : Parser Tree := do
  let start ← position
  let starred ← take? (mark "*")
  let value ← sub .primary
  unless bindable value do fail
  if starred then return .unsupported (← spanFrom start) .starred [value]
  else return value

def targets : Parser Tree := do
  let start ← position
  let first ← target sub
  if ← at? (mark ",") then
    let items ← moreItems (target sub) (· == word "in") first
    return .unsupported (← spanFrom start) .tuple items
  else return first

/-- Whether the `for` part of a comprehension comes next. -/
def atSource : Parser Bool := do
  let kind ← peek
  if kind = word "for" then return true
  else if kind = word "async" then return (← peekSecond) = word "for"
  else return false

/-- One `for` part of a comprehension with its conditions. -/
def source : Parser Tree := do
  let start ← position
  let _ ← take? (word "async")
  expect (word "for")
  let bound ← targets sub
  expect (word "in")
  let values ← sub .disjunction
  let conditions ← extend (fun conditions => do
    if ← take? (word "if") then return some ((← sub .disjunction) :: conditions)
    else return none) []
  return .unsupported (← spanFrom start) .source (bound :: values :: conditions.reverse)

/-- The `for` parts of a comprehension. -/
def sources : Parser (List Tree) := do
  let found ← extend (fun found => do
    if ← atSource then return some ((← source sub) :: found)
    else return none) []
  return found.reverse

def yieldExpression : Parser Tree := do
  let start ← position
  expect (word "yield")
  if ← take? (word "from") then
    let value ← sub .expression
    return .unsupported (← spanFrom start) .yieldedFrom [value]
  else if closes (← peek) then
    return .unsupported (← spanFrom start) .yielded []
  else
    let valueStart ← position
    let first ← starredItem sub
    if ← at? (mark ",") then
      let items ← moreItems (starredItem sub) closes first
      let tuple := Tree.unsupported (← spanFrom valueStart) .tuple items
      return .unsupported (← spanFrom start) .yielded [tuple]
    else return .unsupported (← spanFrom start) .yielded [first]

/-- What stands between parentheses: a group, a tuple or a generator. -/
def parenthesized : Parser Tree := do
  let start ← position
  expect (mark "(")
  if ← take? (mark ")") then return .unsupported (← spanFrom start) .tuple []
  else if ← at? (word "yield") then
    let value ← yieldExpression sub
    expect (mark ")")
    return value
  else
    let starred ← at? (mark "*")
    let first ← starredItem sub
    if ← at? (mark ",") then
      let items ← moreItems (starredItem sub) closes first
      expect (mark ")")
      return .unsupported (← spanFrom start) .tuple items
    else if starred then
      -- Only a comma makes a starred item a part of something.
      fail
    else if ← atSource then
      let found ← sources sub
      expect (mark ")")
      return .unsupported (← spanFrom start) .generator (first :: found)
    else
      expect (mark ")")
      return first

/-- What stands between square brackets: a list or a comprehension. -/
def bracketed : Parser Tree := do
  let start ← position
  expect (mark "[")
  if ← take? (mark "]") then return .list (← spanFrom start) []
  else
    let starred ← at? (mark "*")
    let first ← starredItem sub
    if ← (if starred then pure false else atSource) then
      let found ← sources sub
      expect (mark "]")
      return .unsupported (← spanFrom start) .listComprehension (first :: found)
    else
      let items ← moreItems (starredItem sub) closes first
      expect (mark "]")
      return .list (← spanFrom start) items

/-- An entry of a dictionary: a key and a value, or two stars and a mapping. -/
def entry : Parser (List Tree × Tree) := do
  if ← take? (mark "**") then return ([], ← sub .bitOr)
  else
    let key ← sub .expression
    expect (mark ":")
    return ([key], ← sub .expression)

/-- The entries of a dictionary behind the first one.  Keys are searched before values. -/
def entries (first : List Tree × Tree) : Parser (List Tree) := do
  let found ← extend (fun found => do
    if ← take? (mark ",") then
      if closes (← peek) then return none
      else return some ((← entry sub) :: found)
    else return none) [first]
  let ordered := found.reverse
  return ordered.flatMap Prod.fst ++ ordered.map Prod.snd

/-- What stands between braces: a dictionary, a set or a comprehension. -/
def braced : Parser Tree := do
  let start ← position
  expect (mark "\x7b")
  if ← take? (mark "\x7d") then return .unsupported (← spanFrom start) .dictionary []
  else if ← at? (mark "**") then
    let found ← entries sub (← entry sub)
    expect (mark "\x7d")
    return .unsupported (← spanFrom start) .dictionary found
  else
    let starred ← at? (mark "*")
    let first ← starredItem sub
    if ← (if starred then pure false else at? (mark ":")) then
      advance
      let value ← sub .expression
      if ← atSource then
        let found ← sources sub
        expect (mark "\x7d")
        return .unsupported (← spanFrom start) .dictionaryComprehension (first :: value :: found)
      else
        let found ← entries sub ([first], value)
        expect (mark "\x7d")
        return .unsupported (← spanFrom start) .dictionary found
    else if ← (if starred then pure false else atSource) then
      let found ← sources sub
      expect (mark "\x7d")
      return .unsupported (← spanFrom start) .setComprehension (first :: found)
    else
      let items ← moreItems (starredItem sub) closes first
      expect (mark "\x7d")
      return .unsupported (← spanFrom start) .set items

/-- One expression inside a formatted text.  It is read as if it stood in parentheses. -/
def formattedField (text : Text) : Parser Tree := do
  let outer ← get
  match (Lexer.scan ('(' :: text ++ [')'])) with
  | ⟨tokens, none, none⟩ =>
    set (Cursor.mk tokens 0)
    let value ← sub .atom
    expect .finish
    set outer
    return .unsupported value.span .field [value]
  | _ => fail

/-- Quotations side by side, which form one text.  They are all of bytes or none, and what they hold
has to be well formed. -/
def quotations : Parser Tree := do
  let start ← position
  let parts ← extend (fun parts => do
    match ← peek with
    | .quotation quoted =>
      advance
      return some (quoted :: parts)
    | _ => return none) []
  let span ← spanFrom start
  if parts.any Quotation.isBytes && !parts.all Quotation.isBytes then fail
  else if !parts.all (fun quoted => Escape.isPlain quoted && Escape.isComplete quoted) then fail
  else
    let formatted := parts.reverse.filter Quotation.isFormatted
    let contents := formatted.map fun quoted => Formatted.fields quoted.isRaw quoted.content
    if contents.isEmpty then return .literal span
    else if contents.all Formatted.Fields.wellFormed then
      let fields ← (contents.flatMap Formatted.Fields.expressions).mapM (formattedField sub)
      return .unsupported span .formatted fields
    else fail

def atom : Parser Tree := do
  let start ← position
  let kind ← peek
  let single (node : Span → Tree) : Parser Tree := do
    advance
    return node (← spanFrom start)
  match kind with
  | .name spelling => single (.name · (Text.normalForm spelling))
  | .integer value => single (.integer · value)
  | .longInteger => throw .longInteger
  | .double value => single (.double · value)
  | .imaginary => single .literal
  | .quotation _ => quotations sub
  | _ =>
    if kind = word "True" ∨ kind = word "False" ∨ kind = word "None" ∨ kind = mark "..." then
      single .literal
    else if kind = mark "(" then parenthesized sub
    else if kind = mark "[" then bracketed sub
    else if kind = mark "\x7b" then braced sub
    else fail

inductive ArgumentForm where
  | positional
  | generator
  | starred
  | named
  | mapping
  deriving DecidableEq

def argument : Parser ArgumentForm := do
  if ← take? (mark "*") then
    let _ ← sub .expression
    return .starred
  else if ← take? (mark "**") then
    let _ ← sub .expression
    return .mapping
  else
    let first ← peek
    if first.isName && (← peekSecond) = mark "=" then
      advance
      advance
      let _ ← sub .expression
      return .named
    else
      let _ ← sub .named
      if ← atSource then
        let _ ← sources sub
        return .generator
      else return .positional

/-- Whether arguments can stand in this order: positional ones come before named ones, starred ones
before mappings, and a generator stands alone. -/
def orderedArguments : List ArgumentForm → Bool
  | [] => true
  | .positional :: rest => !rest.contains .generator && orderedArguments rest
  | .generator :: rest => rest.isEmpty
  | .starred :: rest => !rest.contains .generator && orderedArguments rest
  | .named :: rest =>
    !rest.contains .positional && !rest.contains .generator && orderedArguments rest
  | .mapping :: rest =>
    rest.all (fun form => form = .named || form = .mapping) && orderedArguments rest

def arguments : Parser Unit := do
  if ← take? (mark ")") then return ()
  else
    let first ← argument sub
    let (forms, comma) ← extend (fun (forms, comma) => do
      if ← take? (mark ",") then
        if ← at? (mark ")") then
          -- A comma behind the last argument is read, and nothing follows it.
          return some (forms, true)
        else return some ((← argument sub) :: forms, comma)
      else return none) ([first], false)
    unless orderedArguments forms.reverse && !(comma && forms.contains .generator) do fail
    expect (mark ")")

/-- Whether an optional bound of a slice is left out. -/
def atSliceEnd : Parser Bool := do
  let kind ← peek
  return kind == mark ":" || kind == mark "," || closes kind

def sliceBound : Parser (List Tree) := do
  if ← atSliceEnd then return [] else return [← sub .expression]

/-- The part of a slice from its first colon on. -/
def sliceFrom (start : Nat) (lower : List Tree) : Parser Tree := do
  expect (mark ":")
  let upper ← sliceBound sub
  let step ← if ← take? (mark ":") then sliceBound sub else pure []
  return .slice (← spanFrom start) (lower ++ upper ++ step)

/-- One item of a subscript: an index, a slice, or a starred value. -/
def subscriptItem : Parser Tree := do
  let start ← position
  if ← at? (mark ":") then sliceFrom sub start []
  else if ← take? (mark "*") then
    let value ← sub .expression
    return .unsupported (← spanFrom start) .starred [value]
  else
    let value ← sub .named
    if ← at? (mark ":") then sliceFrom sub start [value] else return value

/-- What stands in the brackets of a subscript. -/
def subscriptItems : Parser Tree := do
  let start ← position
  let starred ← at? (mark "*")
  let first ← subscriptItem sub
  if starred || (← at? (mark ",")) then
    let items ← moreItems (subscriptItem sub) closes first
    return .unsupported (← spanFrom start) .tuple items
  else return first

/-- An atom with the properties, calls and subscripts behind it. -/
def primary : Parser Tree := do
  let start ← position
  let first ← sub .atom
  extend (fun value => do
    if ← take? (mark ".") then
      match ← peek with
      | .name spelling =>
        advance
        return some (.attribute (← spanFrom start) value (Text.normalForm spelling))
      | _ => fail
    else if ← take? (mark "(") then
      arguments sub
      return some (.rejected (← spanFrom start) .call)
    else if ← take? (mark "[") then
      let index ← subscriptItems sub
      expect (mark "]")
      return some (.subscript (← spanFrom start) value index)
    else return none) first

def awaited : Parser Tree := do
  let start ← position
  if ← take? (word "await") then
    let value ← sub .primary
    return .unsupported (← spanFrom start) .awaited [value]
  else sub .primary

/-- A power binds its right side more loosely than its left. -/
def power : Parser Tree := do
  let start ← position
  let base ← sub .awaited
  if ← take? (mark "**") then
    let exponent ← sub .factor
    return .binary (← spanFrom start) .unsupported base exponent
  else return base

def signOperator (kind : TokenKind) : Option UnaryOperator :=
  if kind = mark "+" then some .plus
  else if kind = mark "-" then some .minus
  else if kind = mark "~" then some .unsupported
  else none

/-- An operand with signs in front. -/
def factor : Parser Tree := do
  let start ← position
  match signOperator (← peek) with
  | some operator =>
    advance
    let operand ← sub .factor
    return .unary (← spanFrom start) operator operand
  | none => sub .power

/-- Reads a comparison operator.  Those that are not supported have no comparator. -/
def comparisonOperator? : Parser (Option (Option Comparator)) := do
  let kind ← peek
  match kind with
  | .mark symbol =>
    match Comparator.ofSymbol? symbol with
    | some comparator =>
      advance
      return some (some comparator)
    | none => return none
  | _ =>
    if ← take? (word "in") then return some none
    else if ← take? (word "is") then
      let _ ← take? (word "not")
      return some none
    else if ← take? (word "not") then
      expect (word "in")
      return some none
    else return none

/-- Operands with comparisons between them, which form one node. -/
def comparison : Parser Tree := do
  let start ← position
  let first ← sub .bitOr
  let (operators, others) ← extend (fun (operators, others) => do
    match ← comparisonOperator? with
    | some operator => return some (operator :: operators, (← sub .bitOr) :: others)
    | none => return none) (([] : List (Option Comparator)), ([] : List Tree))
  if others.isEmpty then return first
  else return .comparison (← spanFrom start) first operators.reverse others.reverse

/-- A negation, or a comparison. -/
def inversion : Parser Tree := do
  let start ← position
  if ← take? (word "not") then
    let operand ← sub .inversion
    return .unary (← spanFrom start) .unsupported operand
  else sub .comparison

inductive ParameterForm where
  | bare
  | withDefault
  | slash
  | star
  | loneStar
  | mapping
  deriving DecidableEq

def parameter : Parser ParameterForm := do
  let aName : Parser Unit := do
    if (← peek).isName then advance else fail
  if ← take? (mark "*") then
    if ← at? (mark ",") then return .loneStar
    else
      aName
      return .star
  else if ← take? (mark "**") then
    aName
    return .mapping
  else if ← take? (mark "/") then return .slash
  else
    aName
    if ← take? (mark "=") then
      let _ ← sub .expression
      return .withDefault
    else return .bare

/-- Whether parameters can stand in this order behind a star. -/
def orderedBehindStar : List ParameterForm → Bool
  | [] => true
  | .bare :: rest | .withDefault :: rest => orderedBehindStar rest
  | .mapping :: rest => rest.isEmpty
  | _ => false

/-- Whether parameters can stand in this order.  `slashed` tells that a slash can no longer come,
and `defaulted` that a value was given, after which all need one. -/
def orderedParameters (slashed defaulted : Bool) : List ParameterForm → Bool
  | [] => true
  | .bare :: rest => !defaulted && orderedParameters slashed defaulted rest
  | .withDefault :: rest => orderedParameters slashed true rest
  | .slash :: rest => !slashed && orderedParameters true defaulted rest
  | .star :: rest => orderedBehindStar rest
  | .loneStar :: rest =>
    (rest.head? == some .bare || rest.head? == some .withDefault) && orderedBehindStar rest
  | .mapping :: rest => rest.isEmpty

def parameters : Parser Unit := do
  let forms ← extend (fun forms => do
    if ← at? (mark ":") then return none
    else
      let form ← parameter sub
      unless ← at? (mark ":") do expect (mark ",")
      return some (form :: forms)) []
  let ordered := forms.reverse
  unless ordered.head? != some .slash && orderedParameters false false ordered do fail

/-- A function, a choice between two values, or a disjunction. -/
def expression : Parser Tree := do
  let start ← position
  if ← take? (word "lambda") then
    parameters sub
    expect (mark ":")
    let _ ← sub .expression
    return .rejected (← spanFrom start) .function
  else
    let value ← sub .disjunction
    if ← take? (word "if") then
      let _ ← sub .disjunction
      expect (word "else")
      let _ ← sub .expression
      return .rejected (← spanFrom start) .choice
    else return value

/-- An expression that may give its value a name. -/
def named : Parser Tree := do
  let start ← position
  match ← peek with
  | .name _ =>
    if (← peekSecond) = mark ":=" then
      advance
      advance
      let _ ← sub .expression
      return .rejected (← spanFrom start) .binding
    else sub .expression
  | _ => sub .expression

/-- The parser of a level, given parsers for all levels. -/
def level : Level → Parser Tree
  | .named => named sub
  | .expression => expression sub
  | .disjunction => logicalChain (word "or") (sub .conjunction)
  | .conjunction => logicalChain (word "and") (sub .inversion)
  | .inversion => inversion sub
  | .comparison => comparison sub
  | .bitOr => leftChain (operatorIn [("|", .unsupported)]) (sub .bitXor)
  | .bitXor => leftChain (operatorIn [("^", .unsupported)]) (sub .bitAnd)
  | .bitAnd => leftChain (operatorIn [("&", .unsupported)]) (sub .shift)
  | .shift => leftChain (operatorIn [("<<", .unsupported), (">>", .unsupported)]) (sub .sum)
  | .sum => leftChain (operatorIn [("+", .plus), ("-", .minus)]) (sub .term)
  | .term =>
    leftChain (operatorIn [("*", .times), ("/", .over), ("%", .modulo), ("//", .unsupported),
      ("@", .unsupported)]) (sub .factor)
  | .factor => factor sub
  | .power => power sub
  | .awaited => awaited sub
  | .primary => primary sub
  | .atom => atom sub

/-- A parser for a level that makes at most so many nested calls. -/
def parse : Nat → Ladder
  | 0, _ => throw .nestedTooDeeply
  | fuel + 1, rung => level (parse fuel) rung

/-- How many nested calls a parser may make. -/
def callLimit : Nat :=
  8000

/-- A whole source: one expression, or several with commas between them. -/
def whole (sub : Ladder) : Parser Tree := do
  let start ← position
  let first ← sub .expression
  let tree ←
    if ← at? (mark ",") then do
      let ends (kind : TokenKind) : Bool := kind == .newline || kind == .finish
      let items ← moreItems (sub .expression) ends first
      pure (.unsupported (← spanFrom start) .tuple items)
    else pure first
  let _ ← extend (fun _ => do
    if ← take? .newline then return some () else return none) ()
  expect .finish
  return tree

end Parser

end StepScript

import StepScript.Environment
import StepScript.Statement.Basic
import StepScript.Expression.Diagnosis
import StepScript.Expression.Parser

/-!
# Evaluating expressions

An expression is read, searched for constructs that are never allowed, and then evaluated from left
to right.  Evaluation reads the environment and changes nothing.
-/

namespace StepScript

/-- Trees can be built this deep. -/
def constructionLimit : Nat :=
  2970

/-- Trees can be evaluated this deep.  Each level takes two frames of a stack of a thousand, which
also holds the frames of the run itself. -/
def nestingLimit : Nat :=
  494

namespace Tree

/-- The part of the source that a tree covers. -/
def part (source : Text) (tree : Tree) : Text :=
  tree.span.of source

/-- The number that an evaluated operand counts as. -/
def operandNumber (source : Text) (tree : Tree) (value : Value) : Except Fault Float :=
  match value with
  | .array _ => .error (.arrayAsNumber (tree.part source) (some (tree.part source)))
  | value => value.toNumber none

/-- Applies an operator to two numbers. -/
def applyBinary (operator : BinaryOperator) (left right : Float) : Option Float :=
  match operator with
  | .plus => some (left + right)
  | .minus => some (left - right)
  | .times => some (left * right)
  | .over => some (Number.divide left right)
  | .modulo => some (Number.remainder left right)
  | .unsupported => none

/-- Applies an operator to a number. -/
def applyUnary (operator : UnaryOperator) (operand : Float) : Option Float :=
  match operator with
  | .plus => some operand
  | .minus => some (-operand)
  | .unsupported => none

/-- What a name stands for.  The two truth values can be hidden by variables. -/
def lookUp (environment : Environment) (name : Text) : Except Fault Value :=
  match Environment.find? name environment with
  | some value => .ok value
  | none =>
    if name = "true".toList then .ok (.boolean true)
    else if name = "false".toList then .ok (.boolean false)
    else .error (.undefinedVariable name)

def isSlice : Tree → Bool
  | .slice _ _ => true
  | _ => false

mutual

/-- The value of a tree.  `source` is the text that faults quote, and `room` is how many levels of
the tree can be visited. -/
def evaluate (environment : Environment) (source : Text) :
    (room : Nat) → (tree : Tree) → Except Fault Value
  | 0, _ => .error (.visitedTooDeeply source)
  | _ + 1, .integer _ value =>
    match Number.ofInteger? value with
    | some number => .ok (.number number)
    | none => .error (.integerTooLarge source)
  | _ + 1, .double _ value => .ok (.number value)
  | _ + 1, .literal span => .error (.unsupportedLiteral (span.of source))
  | _ + 1, .name _ spelling => lookUp environment spelling
  | room + 1, .list span items => do
    let cells ← evaluateItems environment source (span.of source) room items
    return .array cells
  | room + 1, .unary span operator operand => do
    let value ← evaluate environment source room operand
    let number ← operandNumber source operand value
    match applyUnary operator number with
    | some result => return .number result
    | none => throw (.unsupportedOperator (span.of source))
  | room + 1, .binary span operator left right => do
    let leftValue ← evaluate environment source room left
    let leftNumber ← operandNumber source left leftValue
    let rightValue ← evaluate environment source room right
    let rightNumber ← operandNumber source right rightValue
    match applyBinary operator leftNumber rightNumber with
    | some result => return .number result
    | none => throw (.unsupportedOperator (span.of source))
  | room + 1, .comparison span first [operator] [other] =>
    match operator with
    | none => .error (.unsupportedComparison (span.of source))
    | some comparator => do
      let left ← evaluate environment source room first
      let right ← evaluate environment source room other
      return .boolean (← comparator.compare left right (some (span.of source)))
  | _ + 1, .comparison span _ _ _ => .error (.chainedComparison (span.of source))
  | room + 1, .subscript span target index =>
    if index.isSlice then .error (.slice (span.of source))
    else do
      match ← evaluate environment source room target with
      | .array cells =>
        let position ← evaluate environment source room index
        let place ← position.position cells.length (span.of source)
        match cells[place]? with
        | some cell => return cell
        | none => throw (.invalidIndex (span.of source))
      | _ => throw (.indexedNonArray (target.part source) (span.of source))
  | room + 1, .attribute span target property =>
    if property = "length".toList then do
      match ← evaluate environment source room target with
      | .array cells => return .number (Float.ofNat cells.length)
      | _ => throw (.noLength (target.part source) (span.of source))
    else .error (.unsupportedProperty (span.of source))
  | _ + 1, .slice _ _ => .error (.unsupportedExpression "Slice" source)
  | _ + 1, .rejected _ construct => .error (.unsupportedExpression construct.word source)
  | _ + 1, .unsupported _ construct _ => .error (.unsupportedExpression construct.word source)

/-- The values of the items of a list, which have to be numbers.  `part` is the text of the list. -/
def evaluateItems (environment : Environment) (source part : Text) (room : Nat) :
    List Tree → Except Fault (List Value)
  | [] => .ok []
  | item :: rest => do
    match ← evaluate environment source room item with
    | .number value => return .number value :: (← evaluateItems environment source part room rest)
    | _ => throw (.nonNumericElement part)

end

end Tree

/-- The fault of a source that cannot be read, with the column at which it goes wrong. -/
def unreadable (source : Text) : Fault :=
  .unreadable source (Diagnosis.columnOf source)

/-- The tree that a stripped source writes.  A source with a character that belongs to no token is
unreadable, whatever else it holds. -/
def parseExpression (source : Text) : Except Fault Tree :=
  if source.contains '\x00' then .error (.nulCharacter source)
  else
    let scan := Lexer.scan source
    if scan.invalid.isSome then .error (unreadable source)
    else
      match Parser.whole (Parser.parse Parser.callLimit) ⟨scan.tokens, 0⟩ with
      | .error .nestedTooDeeply => .error (.nestedTooDeeply source)
      | .error .longInteger | .error .unreadable => .error (unreadable source)
      | .ok (tree, _) =>
        if constructionLimit < tree.depth then .error (.nestedTooDeeply source) else .ok tree

/-- Refuses a tree that holds a rejected construct anywhere. -/
def checkTree (source : Text) (tree : Tree) : Except Fault Unit :=
  match Tree.findRejected? (tree.depth + 1) [tree] with
  | none => .ok ()
  | some .call => .error (.functionCall source)
  | some construct => .error (.unsupportedElement construct.word source)

/-- The value of an expression in an environment. -/
def evaluateText (expression : Text) (environment : Environment) : Except Fault Value :=
  let source := stripStatement expression
  if source.isEmpty then .error (.emptyExpression expression)
  else do
    let tree ← parseExpression source
    checkTree source tree
    tree.evaluate environment source nestingLimit

end StepScript

import Mathlib
import StepScript.Expression.Evaluate

/-!
# The grammar of expressions

What an expression means is defined here without any text: an expression is a tree of numerals,
names, lists and operators, and its value in an environment is found by recursion on the tree.
`Expr.print` writes the tree down, with parentheses only where an operand binds more loosely than
its place asks for.
-/

namespace StepScript

namespace Expr

/-! ## Operands and operators -/

/-- A decimal numeral.  It has a point only if there are digits behind it. -/
structure Constant where
  whole : Nat
  fraction : List (Fin 10)
  bounded : whole < 10 ^ 300

namespace Constant

/-- The digits in front of the point, without leading zeros. -/
def digits (numeral : Constant) : Text :=
  Nat.toDigits 10 numeral.whole

/-- The digits behind the point. -/
def places (numeral : Constant) : Text :=
  numeral.fraction.map fun digit => Nat.digitChar digit.val

/-- A numeral as it is written. -/
def text (numeral : Constant) : Text :=
  if numeral.fraction.isEmpty then numeral.digits else numeral.digits ++ '.' :: numeral.places

/-- The double that a numeral stands for. -/
def value (numeral : Constant) : Float :=
  if numeral.fraction.isEmpty then Float.ofNat numeral.whole
  else (Numeral.mk false numeral.digits numeral.places 0).toFloat

end Constant

/-- A name that no construct reserves. -/
structure Identifier where
  first : Char
  rest : Text
  opens : first.isAlpha ∨ first = '_'
  continues : ∀ char ∈ rest, char.isAlphanum ∨ char = '_'
  free : first :: rest ∉ Token.reservedWords

namespace Identifier

/-- A name as it is written. -/
def text (name : Identifier) : Text :=
  name.first :: name.rest

/-- The value that a name stands for.  The two truth values have names of their own, which
variables can hide. -/
def value? (environment : Environment) (name : Identifier) : Option Value :=
  match Environment.find? name.text environment with
  | some value => some value
  | none =>
    if name.text = "true".toList then some (.boolean true)
    else if name.text = "false".toList then some (.boolean false)
    else none

/-- The property that tells how many cells an array has. -/
def length : Identifier :=
  ⟨'l', ['e', 'n', 'g', 't', 'h'], by decide, by simp, by decide⟩

end Identifier

/-- What stands in front of an operand. -/
inductive Sign where
  | plus
  | minus
  deriving DecidableEq, Repr

namespace Sign

def symbol : Sign → Text
  | .plus => ['+']
  | .minus => ['-']

/-- The number that a sign makes of its operand. -/
def apply : Sign → Float → Float
  | .plus, number => number
  | .minus, number => -number

end Sign

/-- What stands between two numbers. -/
inductive Operation where
  | plus
  | minus
  | times
  | over
  | modulo
  deriving DecidableEq, Repr

namespace Operation

def symbol : Operation → Text
  | .plus => ['+']
  | .minus => ['-']
  | .times => ['*']
  | .over => ['/']
  | .modulo => ['%']

/-- The result of an operation. -/
def apply : Operation → Float → Float → Float
  | .plus, left, right => left + right
  | .minus, left, right => left - right
  | .times, left, right => left * right
  | .over, left, right => Number.divide left right
  | .modulo, left, right => Number.remainder left right

/-- How tightly an operation binds its operands. -/
def binding : Operation → Nat
  | .plus | .minus => 1
  | .times | .over | .modulo => 2

end Operation

end Expr

open StepScript.Expr in
/-- An expression. -/
inductive Expr where
  | numeral (constant : Constant)
  | name (identifier : Identifier)
  | list (items : List Expr)
  | unary (sign : Sign) (operand : Expr)
  | binary (operation : Operation) (left right : Expr)
  | comparison (comparator : Comparator) (left right : Expr)
  | subscript (target index : Expr)
  | length (target : Expr)

namespace Expr

/-! ## How an expression is written -/

/-- What an expression is written with.  Each piece but the blank is one token. -/
inductive Piece where
  | numeral (constant : Constant)
  | name (identifier : Identifier)
  | mark (symbol : Text)
  | blank

def Piece.text : Piece → Text
  | .numeral constant => constant.text
  | .name identifier => identifier.text
  | .mark symbol => symbol
  | .blank => [' ']

/-- How tightly the parts of an expression are bound: loosest are comparisons, then follow sums,
products and signs.  A numeral is bound less tightly than what can be indexed. -/
def binding : Expr → Nat
  | .comparison _ _ _ => 0
  | .binary operation _ _ => operation.binding
  | .unary _ _ => 3
  | .numeral _ => 4
  | .name _ | .list _ | .subscript _ _ | .length _ => 5

/-- The pieces of an operand, in parentheses if it is bound less tightly than its place asks for. -/
def grouped (least : Nat) (operand : Expr) (pieces : List Piece) : List Piece :=
  if operand.binding < least then .mark ['('] :: pieces ++ [.mark [')']] else pieces

/-- A symbol between two operands. -/
def spaced (symbol : Text) : List Piece :=
  [.blank, .mark symbol, .blank]

mutual

/-- The pieces that write an expression.  Operations are grouped to the left. -/
def pieces : Expr → List Piece
  | .numeral constant => [.numeral constant]
  | .name identifier => [.name identifier]
  | .list [] => [.mark ['['], .mark [']']]
  | .list (first :: others) =>
    .mark ['['] :: (pieces first ++ morePieces others) ++ [.mark [']']]
  | .unary sign operand => .mark sign.symbol :: grouped 3 operand (pieces operand)
  | .binary operation left right =>
    grouped (operation.binding) left (pieces left) ++ spaced operation.symbol ++
      grouped (operation.binding + 1) right (pieces right)
  | .comparison comparator left right =>
    grouped 1 left (pieces left) ++ spaced comparator.symbol ++ grouped 1 right (pieces right)
  | .subscript target index =>
    grouped 5 target (pieces target) ++ .mark ['['] :: pieces index ++ [.mark [']']]
  | .length target => grouped 5 target (pieces target) ++ [.mark ['.'], .name .length]

/-- The pieces of the items of a list behind the first one. -/
def morePieces : List Expr → List Piece
  | [] => []
  | item :: others => .mark [','] :: .blank :: pieces item ++ morePieces others

end

def print (expression : Expr) : Text :=
  expression.pieces.flatMap Piece.text

mutual

/-- How many operators and lists lie around the innermost operand. -/
def depth : Expr → Nat
  | .numeral _ | .name _ => 0
  | .list items => itemDepth items
  | .unary _ operand => depth operand + 1
  | .binary _ left right | .comparison _ left right => max (depth left) (depth right) + 1
  | .subscript target index => max (depth target) (depth index) + 1
  | .length target => depth target + 1

def itemDepth : List Expr → Nat
  | [] => 0
  | item :: others => max (depth item + 1) (itemDepth others)

end

end Expr

/-! ## What an expression means -/

namespace Value

/-- The number that a value counts as in arithmetic. -/
def numeric? : Value → Option Float
  | .number value => some value
  | .boolean value => some (if value then 1 else 0)
  | .array _ => none

def number? : Value → Option Float
  | .number value => some value
  | _ => none

end Value

namespace Expr

mutual

/-- The value of an expression; none if a part has no value or has a wrong type. -/
def value (environment : Environment) : Expr → Option Value
  | .numeral constant => some (.number constant.value)
  | .name identifier => identifier.value? environment
  | .list items => do return .array (← values environment items)
  | .unary sign operand => do
    let number ← (← value environment operand).numeric?
    return .number (sign.apply number)
  | .binary operation left right => do
    let leftNumber ← (← value environment left).numeric?
    let rightNumber ← (← value environment right).numeric?
    return .number (operation.apply leftNumber rightNumber)
  | .comparison comparator left right => do
    let leftValue ← value environment left
    let rightValue ← value environment right
    return .boolean (comparator.holds (← leftValue.numeric?) (← rightValue.numeric?))
  | .subscript target index => do
    let cells ← (← value environment target).cells?
    let place ← Number.natural? (← (← value environment index).number?)
    cells[place]?
  | .length target => do
    let cells ← (← value environment target).cells?
    return .number (Float.ofNat cells.length)

def values (environment : Environment) : List Expr → Option (List Value)
  | [] => some []
  | item :: others => do
    let number ← (← value environment item).number?
    return .number number :: (← values environment others)

end

@[elab_as_elim, induction_eliminator]
theorem induct {motive : Expr → Prop} (numeral : ∀ value, motive (.numeral value))
    (name : ∀ spelling, motive (.name spelling))
    (list : ∀ items, (∀ item ∈ items, motive item) → motive (.list items))
    (unary : ∀ sign operand, motive operand → motive (.unary sign operand))
    (binary : ∀ operation left right, motive left → motive right →
      motive (.binary operation left right))
    (comparison : ∀ comparator left right, motive left → motive right →
      motive (.comparison comparator left right))
    (subscript : ∀ target index, motive target → motive index → motive (.subscript target index))
    (length : ∀ target, motive target → motive (.length target)) (expression : Expr) :
    motive expression :=
  @Expr.rec motive (fun items => ∀ item ∈ items, motive item) numeral name list unary binary
    comparison subscript length (by simp)
    (fun _ _ first others => by simpa using ⟨first, others⟩) expression

end Expr

end StepScript

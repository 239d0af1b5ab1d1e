import StepScript.Comparator
import StepScript.Expression.Token

/-!
# Expression trees

A tree keeps every construct that an expression can be written with, also those that are never
evaluated, because faults name them.  Each node covers a stretch of the source; parentheses around
a node belong to no node.
-/

namespace StepScript

/-- Operators with two operands.  Those that are not evaluated need no names. -/
inductive BinaryOperator where
  | plus
  | minus
  | times
  | over
  | modulo
  | unsupported
  deriving DecidableEq, Repr

inductive UnaryOperator where
  | plus
  | minus
  | unsupported
  deriving DecidableEq, Repr

/-- Constructs that no expression may hold, wherever they stand. -/
inductive Rejected where
  | call
  | logical
  | choice
  | function
  | binding
  deriving DecidableEq, Repr

def Rejected.word : Rejected → String
  | .call => "Call"
  | .logical => "BoolOp"
  | .choice => "IfExp"
  | .function => "Lambda"
  | .binding => "NamedExpr"

/-- Constructs that cannot be evaluated. -/
inductive Construct where
  | tuple
  | dictionary
  | set
  | listComprehension
  | setComprehension
  | dictionaryComprehension
  | generator
  | starred
  | awaited
  | yielded
  | yieldedFrom
  | formatted
  | source
  | field
  deriving DecidableEq, Repr

def Construct.word : Construct → String
  | .tuple => "Tuple"
  | .dictionary => "Dict"
  | .set => "Set"
  | .listComprehension => "ListComp"
  | .setComprehension => "SetComp"
  | .dictionaryComprehension => "DictComp"
  | .generator => "GeneratorExp"
  | .starred => "Starred"
  | .awaited => "Await"
  | .yielded => "Yield"
  | .yieldedFrom => "YieldFrom"
  | .formatted => "JoinedStr"
  | .source => "comprehension"
  | .field => "FormattedValue"

/-- An expression.  A comparison is a chain, in which an operator that is not supported has no
comparator. -/
inductive Tree where
  | integer (span : Span) (value : Nat)
  | double (span : Span) (value : Float)
  | literal (span : Span)
  | name (span : Span) (name : Text)
  | list (span : Span) (items : List Tree)
  | unary (span : Span) (operator : UnaryOperator) (operand : Tree)
  | binary (span : Span) (operator : BinaryOperator) (left right : Tree)
  | comparison (span : Span) (first : Tree) (operators : List (Option Comparator))
      (others : List Tree)
  | subscript (span : Span) (target index : Tree)
  | slice (span : Span) (bounds : List Tree)
  | attribute (span : Span) (target : Tree) (property : Text)
  | rejected (span : Span) (construct : Rejected)
  | unsupported (span : Span) (construct : Construct) (parts : List Tree)
  deriving Inhabited

namespace Tree

/-- The stretch that a node covers. -/
def span : Tree → Span
  | .integer span _ | .double span _ | .literal span | .name span _ | .list span _
  | .unary span _ _ | .binary span _ _ _ | .comparison span _ _ _ | .subscript span _ _
  | .slice span _ | .attribute span _ _ | .rejected span _ | .unsupported span _ _ => span

/-- The nodes directly below a node, in the order in which they are searched. -/
def children : Tree → List Tree
  | .integer _ _ | .double _ _ | .literal _ | .name _ _ | .rejected _ _ => []
  | .list _ items => items
  | .unary _ _ operand => [operand]
  | .binary _ _ left right => [left, right]
  | .comparison _ first _ others => first :: others
  | .subscript _ target index => [target, index]
  | .slice _ bounds => bounds
  | .attribute _ target _ => [target]
  | .unsupported _ _ parts => parts

mutual

/-- How many nodes lie on the longest way down. -/
def depth : Tree → Nat
  | .integer _ _ | .double _ _ | .literal _ | .name _ _ | .rejected _ _ => 1
  | .list _ items => depths items + 1
  | .unary _ _ operand => depth operand + 1
  | .binary _ _ left right => max (depth left) (depth right) + 1
  | .comparison _ first _ others => max (depth first) (depths others) + 1
  | .subscript _ target index => max (depth target) (depth index) + 1
  | .slice _ bounds => depths bounds + 1
  | .attribute _ target _ => depth target + 1
  | .unsupported _ _ parts => depths parts + 1

/-- The greatest depth among trees. -/
def depths : List Tree → Nat
  | [] => 0
  | tree :: rest => max (depth tree) (depths rest)

end

/-- The rejected construct that a node is. -/
def rejected? : Tree → Option Rejected
  | .rejected _ construct => some construct
  | _ => none

/-- The first rejected construct in trees, level by level.  The depth of the trees is enough
fuel. -/
def findRejected? (fuel : Nat) (level : List Tree) : Option Rejected :=
  match fuel, level with
  | 0, _ | _, [] => none
  | fuel + 1, level =>
    match level.findSome? rejected? with
    | some construct => some construct
    | none => findRejected? fuel (level.flatMap children)

end Tree

end StepScript

import StepScript.Value

/-!
# Comparisons

The six comparisons between numbers.  Truth values count as numbers, and arrays cannot be compared.
-/

namespace StepScript

/-- A comparison between two numbers. -/
inductive Comparator where
  | less
  | atMost
  | greater
  | atLeast
  | equal
  | unequal
  deriving DecidableEq, Repr

namespace Comparator

def symbol : Comparator → Text
  | .less => ['<']
  | .atMost => ['<', '=']
  | .greater => ['>']
  | .atLeast => ['>', '=']
  | .equal => ['=', '=']
  | .unequal => ['!', '=']

def ofSymbol? (symbol : Text) : Option Comparator :=
  [.less, .atMost, .greater, .atLeast, .equal, .unequal].find? (Comparator.symbol · == symbol)

/-- Whether a comparison holds.  NaN is unequal to everything and stands in no other relation. -/
def holds : Comparator → Float → Float → Bool
  | .less, left, right => left < right
  | .atMost, left, right => left ≤ right
  | .greater, left, right => right < left
  | .atLeast, left, right => right ≤ left
  | .equal, left, right => left == right
  | .unequal, left, right => left != right

/-- Compares two values.  `part` is the text of the comparison. -/
def compare (comparator : Comparator) (left right : Value) (part : Option Text) :
    Except Fault Bool :=
  if left.isArray || right.isArray then .error (.arraysCompared part)
  else do
    let left ← left.toNumber none
    let right ← right.toNumber none
    return comparator.holds left right

end Comparator

/-- Why two values could not be compared by a symbol. -/
inductive ComparisonFailure where
  | fault (cause : Fault)
  | unknownSymbol (symbol : Text)

/-- Compares two values by a symbol.  That the values are arrays is noticed before the symbol is
looked up. -/
def compareBy (symbol : Text) (left right : Value) (part : Option Text) :
    Except ComparisonFailure Bool :=
  match Comparator.ofSymbol? symbol with
  | some comparator => (comparator.compare left right part).mapError .fault
  | none =>
    if left.isArray || right.isArray then .error (.fault (.arraysCompared part))
    else .error (.unknownSymbol symbol)

end StepScript

import StepScript.Text.Basic

/-!
# Samples

The scripts that come with the library.
-/

namespace StepScript

/-- A script to learn from. -/
inductive Sample where
  | array
  | fibonacci
  | factorial
  | max
  deriving DecidableEq, Repr

namespace Sample

/-- All samples, in the order in which they are listed. -/
def all : List Sample :=
  [.array, .fibonacci, .factorial, .max]

def name : Sample → String
  | .array => "array"
  | .fibonacci => "fibonacci"
  | .factorial => "factorial"
  | .max => "max"

def lines : Sample → List String
  | .array =>
    ["// Array Sum Example",
      "let arr = [5, 2, 8, 1, 9];",
      "let sum = 0;",
      "",
      "for (let i = 0; i < arr.length; i++) \x7b",
      "  sum = sum + arr[i];",
      "\x7d",
      "",
      "let average = sum / arr.length;"]
  | .fibonacci =>
    ["// Fibonacci Sequence",
      "let a = 0;",
      "let b = 1;",
      "let n = 8;",
      "",
      "for (let i = 0; i < n; i++) \x7b",
      "  let temp = a + b;",
      "  a = b;",
      "  b = temp;",
      "\x7d",
      "",
      "let result = a;"]
  | .factorial =>
    ["// Factorial Calculation",
      "let n = 5;",
      "let factorial = 1;",
      "",
      "for (let i = 1; i <= n; i++) \x7b",
      "  factorial = factorial * i;",
      "\x7d"]
  | .max =>
    ["// Find Maximum",
      "let numbers = [3, 7, 2, 9, 1, 5];",
      "let max = numbers[0];",
      "",
      "for (let i = 1; i < numbers.length; i++) \x7b",
      "  let current = numbers[i];",
      "  if (current > max) \x7b",
      "    max = current;",
      "  \x7d",
      "\x7d"]

def script (sample : Sample) : String :=
  "\n".intercalate sample.lines

def find? (name : Text) : Option Sample :=
  all.find? fun sample => sample.name.toList == name

/-- The sample with a name, or the array sum if no sample has it. -/
def findOrFirst (name : Text) : Sample :=
  (find? name).getD .array

end Sample

end StepScript

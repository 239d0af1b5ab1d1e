import StepScript.Text.Basic
import StepScript.Text.NameTable
import StepScript.Text.DecompositionTable
import StepScript.Text.CompositionTable

/-!
# Names and their normal form

Two spellings of a name that differ only in the form of their characters, such as a ligature and
the letters it joins, denote the same variable.  `normalForm` picks one spelling: characters are
replaced by what they stand for, marks are put in order, and letters are composed with their marks.
-/

namespace StepScript.Text

/-- Characters that may open a name inside an expression. -/
def isNameStart (char : Char) : Bool :=
  if char.toNat < 128 then char.isAlpha || char == '_' else inRanges nameStartRanges char.toNat

/-- Characters that may continue a name inside an expression. -/
def isNameRest (char : Char) : Bool :=
  if char.toNat < 128 then char.isAlphanum || char == '_' else inRanges nameRestRanges char.toNat

/-- The first entry of a table of runs that holds a code point: its start and its value. -/
def findRun? (runs : List (Nat × Nat × Nat)) (code : Nat) : Option (Nat × Nat) :=
  (runs.find? fun run => run.1 ≤ code && code ≤ run.2.1).map fun run => (run.1, run.2.2)

/-- The class that orders a mark behind its letter; zero for everything else. -/
def combiningClass (char : Char) : Nat :=
  if char.toNat < 128 then 0 else ((findRun? combiningClasses char.toNat).map Prod.snd).getD 0

/-- A Hangul syllable is computed from its leading consonant, vowel and trailing consonant. -/
def hangulParts? (code : Nat) : Option (List Nat) :=
  if 0xAC00 ≤ code ∧ code ≤ 0xD7A3 then
    let index := code - 0xAC00
    let leading := 0x1100 + index / 588
    let vowel := 0x1161 + index % 588 / 28
    if index % 28 = 0 then some [leading, vowel] else some [leading, vowel, 0x11A7 + index % 28]
  else none

/-- What a character stands for. -/
def decomposition (char : Char) : List Char :=
  let code := char.toNat
  if code < 128 then [char]
  else
    match hangulParts? code, findRun? singleDecompositions code,
        multipleDecompositions.lookup code with
    | some parts, _, _ => parts.map Char.ofNat
    | none, some (start, image), _ => [Char.ofNat (image + (code - start))]
    | none, none, some parts => parts.map Char.ofNat
    | none, none, none => [char]

/-- Puts a mark in front of marks that are in order already. -/
def placeMark (mark : Char) : List Char → List Char
  | [] => [mark]
  | other :: rest =>
    if 0 < combiningClass other ∧ combiningClass other < combiningClass mark then
      other :: placeMark mark rest
    else mark :: other :: rest

/-- Sorts each run of marks by class and keeps the order of marks of one class. -/
def orderMarks (text : List Char) : List Char :=
  text.foldr placeMark []

/-- The character that two characters form together. -/
def compose? (first second : Char) : Option Char :=
  let (a, b) := (first.toNat, second.toNat)
  if 0x1100 ≤ a ∧ a ≤ 0x1112 ∧ 0x1161 ≤ b ∧ b ≤ 0x1175 then
    some (Char.ofNat (0xAC00 + ((a - 0x1100) * 21 + (b - 0x1161)) * 28))
  else if 0xAC00 ≤ a ∧ a ≤ 0xD7A3 ∧ (a - 0xAC00) % 28 = 0 ∧ 0x11A7 < b ∧ b ≤ 0x11C2 then
    some (Char.ofNat (a + (b - 0x11A7)))
  else
    (compositions.find? fun entry => entry.1 == a && entry.2.1 == b).map
      fun entry => Char.ofNat entry.2.2

/-- Composes a letter with what follows it.  `marks` are the marks passed over so far, last first:
a mark is out of reach when the mark before it has the same or a higher class. -/
def composeFrom (letter : Char) (marks : List Char) : List Char → List Char
  | [] => letter :: marks.reverse
  | char :: rest =>
    let reachable :=
      match marks with
      | [] => true
      | last :: _ => combiningClass last < combiningClass char
    match if reachable then compose? letter char else none with
    | some composed => composeFrom composed marks rest
    | none =>
      if combiningClass char = 0 then letter :: marks.reverse ++ composeFrom char [] rest
      else composeFrom letter (char :: marks) rest

/-- The one spelling by which a name is looked up. -/
def normalForm (name : Text) : Text :=
  if name.all (·.toNat < 128) then name
  else
    match orderMarks (name.flatMap decomposition) with
    | [] => []
    | letter :: rest => composeFrom letter [] rest

theorem normalForm_of_ascii {name : Text} (ascii : ∀ char ∈ name, char.toNat < 128) :
    normalForm name = name := by
  have all : name.all (·.toNat < 128) = true := by simpa using ascii
  simp [normalForm, all]

end StepScript.Text

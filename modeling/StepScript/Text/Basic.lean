/-!
# Script text

A script, a line of it and every piece cut out of a line is a list of characters, so that each
scan is a recursion on the text itself.  This module holds the blank characters and the operations
that cut text at its ends.
-/

namespace StepScript

/-- Text as the list of its characters. -/
abbrev Text := List Char

namespace Text

/-- Whether a code point lies in one of the inclusive ranges. -/
def inRanges (ranges : List (Nat × Nat)) (code : Nat) : Bool :=
  ranges.any fun range => range.1 ≤ code && code ≤ range.2

/-- The twenty-nine characters that count as blank: the ASCII spaces and line controls, the four
information separators, and the spaces and line ends of other scripts. -/
def isBlank (char : Char) : Bool :=
  let code := char.toNat
  (9 ≤ code && code ≤ 13) || (28 ≤ code && code ≤ 32) || code == 0x85 || code == 0xA0 ||
    code == 0x1680 || (0x2000 ≤ code && code ≤ 0x200A) || code == 0x2028 || code == 0x2029 ||
    code == 0x202F || code == 0x205F || code == 0x3000

/-- Drops the longest run of characters of a class from the end. -/
def dropEnd (drops : Char → Bool) (text : Text) : Text :=
  (text.reverse.dropWhile drops).reverse

/-- The text without the blanks in front of it. -/
def trimStart (text : Text) : Text :=
  text.dropWhile isBlank

/-- The text without the blanks behind it. -/
def trimEnd (text : Text) : Text :=
  dropEnd isBlank text

/-- The text without the blanks around it. -/
def trim (text : Text) : Text :=
  trimEnd (trimStart text)

def after? : (start : Text) → Text → Option Text
  | [], rest => some rest
  | _ :: _, [] => none
  | expected :: start, char :: rest => if expected = char then after? start rest else none

/-- What precedes the last occurrence of a character, and what follows it. -/
def splitAtLast? (mark : Char) : Text → Option (Text × Text)
  | [] => none
  | char :: rest =>
    match splitAtLast? mark rest with
    | some (before, behind) => some (char :: before, behind)
    | none => if char = mark then some ([], rest) else none

/-- The parts between the occurrences of a character.  There is always at least one part. -/
def splitAtEach (mark : Char) : Text → List Text
  | [] => [[]]
  | char :: rest =>
    match splitAtEach mark rest with
    | [] => [[char]]
    | part :: parts => if char = mark then [] :: part :: parts else (char :: part) :: parts

def afterFirst? (mark : Char) : Text → Option Text
  | [] => none
  | char :: rest => if char = mark then some rest else afterFirst? mark rest

theorem eq_append_of_after? {start text rest : Text} (found : after? start text = some rest) :
    text = start ++ rest := by
  induction start generalizing text with
  | nil => simpa [after?] using found
  | cons expected start ih =>
    cases text with
    | nil => simp [after?] at found
    | cons char text =>
      by_cases same : expected = char
      · simp only [after?, same, if_true] at found
        rw [same, ih found, List.cons_append]
      · simp [after?, same] at found

end Text

end StepScript

import StepScript.Text.Basic

/-!
# Lines of a script

A script is split at every character that ends a line in some writing convention.  A carriage
return and the line feed behind it end one line together, and a final line end opens no new line.
-/

namespace StepScript.Text

/-- Line feed, carriage return, vertical tab, form feed, the separators of files, groups and
records, next line, and the line and paragraph separators. -/
def isLineEnd (char : Char) : Bool :=
  let code := char.toNat
  (10 ≤ code && code ≤ 13) || (28 ≤ code && code ≤ 30) || code == 0x85 || code == 0x2028 ||
    code == 0x2029

/-- The lines of a text, without the characters that end them. -/
def lines : Text → List Text
  | [] => []
  | '\r' :: '\n' :: rest => [] :: lines rest
  | char :: rest =>
    if isLineEnd char then [] :: lines rest
    else
      match lines rest with
      | [] => [[char]]
      | line :: more =>
        -- A line end at the front of `rest` has already opened the empty line that `char` fills.
        (char :: line) :: more

end StepScript.Text

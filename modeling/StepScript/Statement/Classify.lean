import StepScript.Statement.Pattern

/-!
# Classifying lines

A line says what the first recogniser that accepts it makes of it.  Declarations come before loops,
loops before conditions, and assignments last.
-/

namespace StepScript

/-- The statement that a line holds. -/
def classify (line : Text) : Except Breakdown Statement :=
  let raw := Text.trim line
  match raw with
  | [] => .ok .blank
  | '/' :: '/' :: comment => .ok (.comment (Text.trim comment))
  | _ =>
    let text := stripStatement raw
    if text.isEmpty then .ok .blank
    else
      match Pattern.declaration? text with
      | some statement => .ok statement
      | none =>
        match Pattern.loop? text with
        | .error breakdown => .error breakdown
        | .ok (some statement) => .ok statement
        | .ok none =>
          .ok ((Pattern.conditional? text <|> Pattern.assignment? text).getD (.unrecognized raw))

end StepScript

import StepScript.Expression.Escape

/-!
# Formatted texts

A formatted text holds expressions between braces.  Each may be followed by an equals sign, by a
conversion behind an exclamation mark, and by a format behind a colon, which may hold expressions
again.  Doubled braces stand for themselves.
-/

namespace StepScript.Formatted

/-- The expressions that a formatted text holds, up to the first place at which the text is not as
it has to be. -/
structure Fields where
  expressions : List Text
  wellFormed : Bool

/-- Adds an expression in front. -/
def Fields.push (expression : Text) (fields : Fields) : Fields :=
  { fields with expressions := expression :: fields.expressions }

/-- A text that is malformed from here on. -/
def malformed : Fields :=
  ⟨[], false⟩

/-- What is left of a quotation with its closing quotes, and what follows.  A backslash must not
stand in it. -/
def quotationRest? (quote : Char) (triple : Bool) : Text → Option (Text × Text)
  | [] => none
  | char :: rest =>
    if char = '\\' then none
    else if char = quote ∧ (!triple ∨ rest.take 2 = [quote, quote]) then
      let width := if triple then 2 else 0
      some (char :: rest.take width, rest.drop width)
    else (quotationRest? quote triple rest).map fun (inside, behind) => (char :: inside, behind)

/-- Whether the text begins with a comparison that ends in an equals sign. -/
def atComparison (text : Text) : Bool :=
  match text with
  | char :: '=' :: _ => "!=<>".toList.contains char
  | _ => false

/-- Splits an expression off the front.  `closers` are the brackets to be closed, innermost first.
The rest begins with the character that ends the expression.  Every step consumes a character, so
the length of the text is enough fuel. -/
def splitExpression? (fuel : Nat) (closers : List Char) (text : Text) : Option (Text × Text) :=
  match fuel, text with
  | 0, _ | _, [] => none
  | fuel + 1, char :: rest =>
    let goOn (closers : List Char) (taken behind : Text) : Option (Text × Text) :=
      (splitExpression? fuel closers behind).map fun (part, rest) => (taken ++ part, rest)
    if char = '\\' ∨ char = '#' then none
    else if char = '"' ∨ char = '\'' then
      let triple := rest.take 2 == [char, char]
      let width := if triple then 2 else 0
      match quotationRest? char triple (rest.drop width) with
      | none => none
      | some (inside, behind) => goOn closers (char :: rest.take width ++ inside) behind
    else
      match Token.closer? char, closers with
      | some closer, _ => goOn (closer :: closers) [char] rest
      | none, [] =>
        if atComparison text then goOn [] (text.take 2) (text.drop 2)
        else if "\x7d:!=".toList.contains char then some ([], text)
        else if Token.isCloser char then none
        else goOn [] [char] rest
      | none, closer :: outer =>
        if !Token.isCloser char then goOn closers [char] rest
        else if char = closer then goOn outer [char] rest
        else none

/-- Blanks of ASCII. -/
def isSpace (char : Char) : Bool :=
  char == ' ' || (9 ≤ char.toNat && char.toNat ≤ 13)

/-- Drops the equals sign behind an expression, and the conversion behind it. -/
def dropConversion? (text : Text) : Option Text :=
  let unmarked :=
    match text with
    | '=' :: rest => rest.dropWhile isSpace
    | _ => text
  match unmarked with
  | '!' :: rest =>
    let ends (char : Char) : Bool := char == '\x7d' || char == ':'
    match rest.takeWhile (!ends ·) with
    | [letter] => if "sra".toList.contains letter then some (rest.drop 1) else none
    | _ => none
  | _ => some unmarked

/-- Formats may be nested this deep. -/
def formatDepth : Nat :=
  2

/-- The expressions of a formatted text.  `outer` is the number of formats that the scan is inside
of, each of which ends with a brace.  A backslash begins an escape unless the text is raw, and it
does not protect a brace.  Every step consumes a character, so the length of the text is enough
fuel. -/
def fieldsFrom (raw : Bool) (fuel outer : Nat) (text : Text) : Fields :=
  match fuel with
  | 0 => malformed
  | fuel + 1 =>
    match text, outer with
    | [], 0 => ⟨[], true⟩
    | [], _ + 1 => malformed
    | '\x7b' :: '\x7b' :: rest, 0 => fieldsFrom raw fuel 0 rest
    | '\x7d' :: '\x7d' :: rest, 0 => fieldsFrom raw fuel 0 rest
    | '\x7d' :: _, 0 => malformed
    | '\x7d' :: rest, outer + 1 => fieldsFrom raw fuel outer rest
    | '\x7b' :: rest, outer =>
      if formatDepth ≤ outer then malformed
      else
        match splitExpression? (rest.length + 1) [] rest with
        | none => malformed
        | some (expression, behind) =>
          if expression.all isSpace then malformed
          else
            Fields.push expression <|
              match dropConversion? behind with
              | some ('\x7d' :: rest) => fieldsFrom raw fuel outer rest
              | some (':' :: rest) => fieldsFrom raw fuel (outer + 1) rest
              | _ => malformed
    | '\\' :: rest, outer =>
      if raw then fieldsFrom raw fuel outer rest
      else
        match Escape.rest? false rest with
        | none => malformed
        | some behind =>
          let protects := rest.head? != some '\x7b' && rest.head? != some '\x7d'
          fieldsFrom raw fuel outer (if protects then behind else rest)
    | _ :: rest, outer => fieldsFrom raw fuel outer rest

def fields (raw : Bool) (text : Text) : Fields :=
  fieldsFrom raw (text.length + 1) 0 text

end StepScript.Formatted

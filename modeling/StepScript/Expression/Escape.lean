import StepScript.Expression.Token

/-!
# Escapes

A backslash in a quoted text begins an escape.  Most escapes are a single character, which may be
any, but those that give a character by its number or its name have to be complete.
-/

namespace StepScript.Escape

def isHexDigit (char : Char) : Bool :=
  char.isDigit || ('a' ≤ char && char ≤ 'f') || ('A' ≤ char && char ≤ 'F')

/-- What follows a number of hexadecimal digits. -/
def behindDigits? (count : Nat) (text : Text) : Option Text :=
  if (text.take count).length = count ∧ (text.take count).all isHexDigit then
    some (text.drop count)
  else none

def behindName? (text : Text) : Option Text :=
  match text with
  | '\x7b' :: inside =>
    match inside.dropWhile (· != '\x7d') with
    | _ :: behind => if inside.head? = some '\x7d' then none else some behind
    | [] => none
  | _ => none

/-- What follows an escape whose backslash has been read; none if the escape is incomplete.  The
largest number of a character has the hexadecimal digits 10ffff.  Bytes have no names, and no
numbers of more than two digits. -/
def rest? (bytes : Bool) (text : Text) : Option Text :=
  match text with
  | [] => none
  | 'x' :: behind => behindDigits? 2 behind
  | char :: behind =>
    if bytes then some behind
    else if char = 'u' then behindDigits? 4 behind
    else if char = 'U' then
      let front := behind.take 3
      if front = "000".toList ∨ front = "001".toList ∧ behind[3]? = some '0' then
        behindDigits? 8 behind
      else none
    else if char = 'N' then behindName? behind
    else some behind

/-- Whether all escapes of a text are complete.  Every step consumes a character, so the length of
the text is enough fuel. -/
def completeIn (bytes : Bool) (fuel : Nat) (text : Text) : Bool :=
  match fuel, text with
  | 0, _ | _, [] => true
  | fuel + 1, '\\' :: rest =>
    match rest? bytes rest with
    | some behind => completeIn bytes fuel behind
    | none => false
  | fuel + 1, _ :: rest => completeIn bytes fuel rest

/-- Whether the characters of a quotation are allowed in it: bytes are written in ASCII. -/
def isPlain (quoted : Quotation) : Bool :=
  !quoted.isBytes || quoted.content.all fun char => char.toNat < 128

/-- Whether all escapes of a quotation are complete.  Those of a formatted text depend on where its
expressions are, and are not judged here. -/
def isComplete (quoted : Quotation) : Bool :=
  quoted.isRaw || quoted.isFormatted ||
    completeIn quoted.isBytes quoted.content.length quoted.content

end StepScript.Escape

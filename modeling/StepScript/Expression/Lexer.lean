import StepScript.Expression.Token
import StepScript.Number.Numeral

/-!
# Splitting an expression into tokens

At each place the longest token is taken.  Blanks separate tokens, and line ends do so inside
brackets; a hash sign starts a comment.  Some errors lie in the characters themselves: a token that
cannot end where it has to, a character that belongs to no token, or brackets that do not match.
They make an expression unreadable wherever they occur, so the lexer reports the first of them.
-/

namespace StepScript.Lexer

open Token

/-- A token at the front of a text with its length, or the offset of a character that prevents one.
Leading zeros are blamed by their byte position on the line. -/
inductive Lexeme where
  | token (kind : TokenKind) (length : Nat)
  | invalid (offset : Nat)
  | leadingZeros

/-- Decimal integers may have this many digits. -/
def digitLimit : Nat :=
  4300

/-- A run of digits, in which single underscores may stand between digits.  Returns the digits and
the length of the run, or the offset of an underscore that no digit follows. -/
def digitRun (accepts : Char → Bool) : Text → Except Nat (Text × Nat)
  | [] => .ok ([], 0)
  | char :: rest =>
    if accepts char then
      match digitRun accepts rest with
      | .ok (digits, length) => .ok (char :: digits, length + 1)
      | .error offset => .error (offset + 1)
    else if char = '_' then
      match rest with
      | next :: _ =>
        if accepts next then
          match digitRun accepts rest with
          | .ok (digits, length) => .ok (digits, length + 1)
          | .error offset => .error (offset + 1)
        else .error 0
      | [] => .error 0
    else .ok ([], 0)

/-- Whether a word that may directly follow a number stands at the front.  Two-letter words that
begin with `i` count even when they go on. -/
def wordMayFollow (text : Text) : Bool :=
  let whole (word : String) : Bool :=
    match Text.after? word.toList text with
    | some (char :: _) => !continuesName char
    | some [] => true
    | none => false
  let front (word : String) : Bool := (Text.after? word.toList text).isSome
  ["and", "else", "for", "or", "not"].any whole || ["if", "in", "is"].any front

/-- Ends a number of a given length in front of `rest`.  An ASCII letter must not follow. -/
def endNumber (kind : TokenKind) (length : Nat) (rest : Text) : Lexeme :=
  match rest with
  | char :: _ =>
    if char.toNat < 128 && continuesName char && !wordMayFollow rest then .invalid (length - 1)
    else .token kind length
  | [] => .token kind length

/-- The value of a digit in a base up to sixteen. -/
def digitValue (char : Char) : Nat :=
  if char.isDigit then char.toNat - 48
  else if char.isLower then char.toNat - 87
  else char.toNat - 55

/-- A number behind a base mark such as `0x`. -/
def radixNumber (base : Nat) (text : Text) : Lexeme :=
  let accepts (char : Char) : Bool :=
    (char.isDigit || (base == 16 && char.isAlpha)) && digitValue char < base
  let behind := text.drop 2
  -- A decimal digit that the base lacks is blamed itself, anything else by the character before.
  let blame (offset : Nat) : Lexeme :=
    match text[offset + 1]? with
    | some char => if char.isDigit then .invalid (offset + 1) else .invalid offset
    | none => .invalid offset
  match digitRun accepts behind with
  | .error offset => blame (offset + 2)
  | .ok ([], _) => blame 1
  | .ok (digits, length) =>
    let rest := behind.drop length
    match rest with
    | char :: _ =>
      if char.isDigit then .invalid (length + 2)
      else
        endNumber (.integer (digits.foldl (fun value digit => value * base + digitValue digit) 0))
          (length + 2) rest
    | [] =>
      .token (.integer (digits.foldl (fun value digit => value * base + digitValue digit) 0))
        (length + 2)

/-- An exponent at the front of a text: its value and length, nothing if there is none, or the
offset of a sign without digits. -/
def exponentPart (text : Text) : Except Nat (Option (Int × Nat)) :=
  match text with
  | mark :: rest =>
    if mark = 'e' ∨ mark = 'E' then
      let (negative, unsigned) := Numeral.takeSign rest
      let signs := rest.length - unsigned.length
      match unsigned with
      | char :: _ =>
        if char.isDigit then
          match digitRun Char.isDigit unsigned with
          | .ok (digits, length) =>
            let value : Int := Text.digitsValue digits
            .ok (some (if negative then -value else value, 1 + signs + length))
          | .error offset => .error (1 + signs + offset)
        else if signs = 0 then .ok none
        else .error 1
      | [] => if signs = 0 then .ok none else .error 1
    else .ok none
  | [] => .ok none

/-- A decimal number.  The text begins with a digit, or with a point and a digit. -/
def decimalNumber (text : Text) : Lexeme :=
  match digitRun Char.isDigit text with
  | .error offset => .invalid offset
  | .ok (whole, wholeLength) =>
    let behindWhole := text.drop wholeLength
    let (pointed, fractionRun) :=
      match behindWhole with
      | '.' :: places =>
        match places with
        | char :: _ =>
          if char.isDigit then (true, digitRun Char.isDigit places) else (true, .ok ([], 0))
        | [] => (true, .ok ([], 0))
      | _ => (false, .ok ([], 0))
    match fractionRun with
    | .error offset => .invalid (wholeLength + 1 + offset)
    | .ok (fraction, fractionLength) =>
      let mantissaLength := wholeLength + (if pointed then 1 + fractionLength else 0)
      let behindMantissa := text.drop mantissaLength
      match exponentPart behindMantissa with
      | .error offset => .invalid (mantissaLength + offset)
      | .ok exponent =>
        let length := mantissaLength + (exponent.map Prod.snd).getD 0
        let rest := text.drop length
        let plain := !pointed && exponent.isNone
        match rest with
        | 'j' :: behind | 'J' :: behind => endNumber .imaginary (length + 1) behind
        | _ =>
          let marked := rest.head? == some 'e' || rest.head? == some 'E'
          if plain && !marked && whole.head? == some '0' && whole.any (· != '0') then .leadingZeros
          else if plain then
            let kind :=
              if digitLimit < whole.length then .longInteger
              else .integer (Text.digitsValue whole)
            endNumber kind length rest
          else
            let value := (Numeral.mk false whole fraction ((exponent.map Prod.fst).getD 0)).toFloat
            endNumber (.double value) length rest

/-- A number.  The text begins with a digit, or with a point and a digit. -/
def number (text : Text) : Lexeme :=
  match text with
  | '0' :: 'x' :: _ | '0' :: 'X' :: _ => radixNumber 16 text
  | '0' :: 'o' :: _ | '0' :: 'O' :: _ => radixNumber 8 text
  | '0' :: 'b' :: _ | '0' :: 'B' :: _ => radixNumber 2 text
  | _ => decimalNumber text

/-- The content of a quotation and the length of it with its closing quotes.  A quotation with
single quotes ends on its line. -/
def closeQuotation? (quote : Char) (triple : Bool) : Text → Option (Text × Nat)
  | [] => none
  | '\\' :: '\r' :: '\n' :: rest =>
    (closeQuotation? quote triple rest).map fun (content, length) =>
      ('\\' :: '\n' :: content, length + 3)
  | '\\' :: char :: rest =>
    (closeQuotation? quote triple rest).map fun (content, length) =>
      ('\\' :: char :: content, length + 2)
  | char :: rest =>
    if char = quote ∧ (!triple ∨ rest.take 2 = [quote, quote]) then
      some ([], if triple then 3 else 1)
    else if !triple ∧ (char = '\n' ∨ char = '\r') then none
    else (closeQuotation? quote triple rest).map fun (content, length) =>
      (char :: content, length + 1)

/-- The letters in front of a quotation say how to read it.  These spellings are known, in either
case. -/
def quotationLetters : List String :=
  ["", "b", "r", "u", "f", "br", "rb", "fr", "rf"]

/-- A quotation with its letters; nothing if the text begins with something else. -/
def quotation? (text : Text) : Option Lexeme :=
  let letters := text.takeWhile fun char => "bBrRuUfF".toList.contains char
  if letters.length ≤ 2 ∧ quotationLetters.contains (String.ofList (letters.map Char.toLower)) then
    match text.drop letters.length with
    | quote :: rest =>
      if quote = '"' ∨ quote = '\'' then
        let triple := rest.take 2 == [quote, quote]
        let opening := letters.length + (if triple then 3 else 1)
        match closeQuotation? quote triple (text.drop opening) with
        | none => some (.invalid 0)
        | some (content, length) =>
          let has (letter : Char) : Bool := (letters.map Char.toLower).contains letter
          some (.token (.quotation ⟨has 'b', has 'r', has 'f', content⟩) (opening + length))
      else none
    | [] => none
  else none

def nameLexeme (text : Text) : Lexeme :=
  let spelling := text.takeWhile continuesName
  if reservedWords.contains spelling then .token (.word spelling) spelling.length
  else
    match badCharacter? spelling with
    | some offset => .invalid offset
    | none => .token (.name spelling) spelling.length

/-- A mark of up to three characters.  Control characters are no marks. -/
def markLexeme (char : Char) (text : Text) : Lexeme :=
  if tripleMarks.contains (text.take 3) then .token (.mark (text.take 3)) 3
  else if doubleMarks.contains (text.take 2) then .token (.mark (text.take 2)) 2
  else if char.toNat < 32 ∨ char.toNat = 127 then .invalid 0
  else .token (.mark [char]) 1

/-- The token at the front of a text that begins with a character other than a blank. -/
def lexeme (char : Char) (text : Text) : Lexeme :=
  match quotation? text with
  | some found => found
  | none =>
    if opensName char then nameLexeme text
    else if char.isDigit then number text
    else if char = '.' then
      match text with
      | _ :: next :: _ => if next.isDigit then number text else markLexeme char text
      | _ => markLexeme char text
    else markLexeme char text

/-- A character that makes a source unreadable, by its column in characters or in bytes. -/
structure Blame where
  offset : Nat
  inBytes : Bool

/-- The tokens of a source.  When `invalid` is set, the tokens end in front of the place.
`unclosed` is where the innermost bracket stands that is open behind the last token. -/
structure Scan where
  tokens : List Token
  invalid : Option Blame
  unclosed : Option Nat

/-- At most this many brackets may be open. -/
def bracketLimit : Nat :=
  200

/-- Adds a token in front. -/
def Scan.push (token : Token) (scan : Scan) : Scan :=
  { scan with tokens := token :: scan.tokens }

/-- A source that cannot be read from here on. -/
def Scan.refuse (offset : Nat) : Scan :=
  ⟨[], some ⟨offset, false⟩, none⟩

/-- Scans a source from an offset on.  `brackets` are the open ones, innermost first, each with the
character that closes it.  `fresh` tells that nothing but blanks and comments stands on the line so
far.  Every step consumes a character, so the length of the text is enough fuel. -/
def scanFrom (fuel offset : Nat) (brackets : List (Char × Nat)) (fresh : Bool) (text : Text) :
    Scan :=
  match fuel with
  | 0 => ⟨[], none, none⟩
  | fuel + 1 =>
    let depth := brackets.length
    let unclosed := brackets.head?.map Prod.snd
    match text with
    | [] =>
      ⟨[⟨.finish, ⟨offset, offset⟩, depth⟩], none, unclosed⟩
    | char :: rest =>
      if char = ' ' ∨ char = '\t' ∨ char = '\x0c' then
        if fresh && brackets.isEmpty && offset ≠ 0 then
          -- Blanks in front of a line are kept apart, because an indented line is an error.
          let width := (text.takeWhile fun c => c == ' ' || c == '\t' || c == '\x0c').length
          let behind := text.drop width
          match behind with
          | next :: _ =>
            let scan := scanFrom fuel (offset + width) brackets fresh behind
            if next = '\n' ∨ next = '\r' ∨ next = '#' then scan
            else
              scan.push
                ⟨.indentation width, ⟨offset + width, offset + width⟩, depth⟩
          | [] => scanFrom fuel (offset + width) brackets fresh behind
        else scanFrom fuel (offset + 1) brackets fresh rest
      else if char = '#' then
        let comment := (text.takeWhile fun c => c != '\n' && c != '\r').length
        let scan := scanFrom fuel (offset + comment) brackets fresh (text.drop comment)
        -- The end of a line with a comment stands where the comment begins.
        match scan.tokens with
        | ⟨.newline, span, depth⟩ :: rest =>
          { scan with tokens := ⟨.newline, ⟨offset, span.stop⟩, depth⟩ :: rest }
        | _ => scan
      else if char = '\n' ∨ char = '\r' then
        let length := if text.take 2 = ['\r', '\n'] then 2 else 1
        let scan := scanFrom fuel (offset + length) brackets true (text.drop length)
        if fresh || !brackets.isEmpty then scan
        else scan.push ⟨.newline, ⟨offset, offset + length⟩, depth⟩
      else if char = '\\' then
        match rest with
        | '\r' :: '\n' :: behind => scanFrom fuel (offset + 3) brackets false behind
        | '\n' :: behind | '\r' :: behind => scanFrom fuel (offset + 2) brackets false behind
        | [] =>
          ⟨[⟨.strayBackslash offset, ⟨offset, offset + 1⟩, depth⟩], none, unclosed⟩
        | _ :: _ =>
          ⟨[⟨.strayBackslash (offset + 1), ⟨offset, offset + 1⟩, depth⟩], none, unclosed⟩
      else
        match lexeme char text with
        | .invalid place => Scan.refuse (offset + place)
        | .leadingZeros => ⟨[], some ⟨offset, true⟩, none⟩
        | .token kind length =>
          let span : Span := ⟨offset, offset + length⟩
          let continueWith (brackets : List (Char × Nat)) : Scan :=
            (scanFrom fuel (offset + length) brackets false (text.drop length)).push
              ⟨kind, span, brackets.length⟩
          match closer? char, isCloser char, brackets with
          | some close, _, _ =>
            if bracketLimit ≤ brackets.length then Scan.refuse offset
            else continueWith ((close, offset) :: brackets)
          | none, true, (close, _) :: outer =>
            if close = char then continueWith outer else Scan.refuse offset
          | none, true, [] => Scan.refuse offset
          | none, false, _ => continueWith brackets

/-- The tokens of a source. -/
def scan (source : Text) : Scan :=
  scanFrom (source.length + 1) 0 [] true source

end StepScript.Lexer

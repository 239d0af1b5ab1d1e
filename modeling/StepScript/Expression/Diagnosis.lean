import StepScript.Expression.Mistake

/-!
# Where an expression goes wrong

A source that is no expression is read twice more.  The first reading looks for the furthest token
that an expression could reach, and the second for common mistakes, which are blamed first.  What
lies in the characters themselves comes before both: a character that belongs to no token, or a
bracket that is never closed.
-/

namespace StepScript.Diagnosis

open Reading

/-- The text between the start of the line and an offset. -/
def lineBefore (source : Text) (offset : Nat) : Text :=
  ((source.take offset).reverse.takeWhile fun char => char != '\n' && char != '\r').reverse

/-- The column of an offset on its line, counted in characters from one. -/
def columnAt (source : Text) (offset : Nat) : Nat :=
  (lineBefore source offset).length + 1

/-- The column of an offset on its line, counted in bytes from one. -/
def byteColumnAt (source : Text) (offset : Nat) : Nat :=
  (lineBefore source offset).foldl (fun bytes char => bytes + char.utf8Size) 0 + 1

/-- How many lines end in front of an offset. -/
def lineOf (source : Text) (offset : Nat) : Nat :=
  (Text.splitAtEach '\n' (source.take offset)).length - 1

/-- What is found out about a source that cannot be read.  Where nothing is blamed, it is but the
token that fits nowhere.  `left` is how many tokens were left at the furthest look of the reading
that gave the verdict, and `leastLeft` at the furthest look of all. -/
structure Verdict where
  blamed : Option Blame
  left : Nat
  leastLeft : Nat

/-- The verdict on a source.  There is none for a source that can be read. -/
def verdict? (judge : Judge) (grammar : (Rule → Reader Phrase) → Reader Unit) (scan : Lexer.Scan) :
    Option Verdict :=
  -- A rule calls at most about two dozen others before a token is taken.
  let reader := grammar (read judge (32 * (scan.tokens.length + 1)))
  let state := State.start scan.tokens scan.unclosed.isSome false
  match reader state with
  | (.ok (), _) => none
  | (.error (.blamed what), reached) => some ⟨what, reached.left, reached.left⟩
  | (.error .refused, reached) =>
    match reader { state with left := reached.left, searching := true } with
    | (.error (.blamed what), again) => some ⟨what, again.left, again.left⟩
    | (_, again) => some ⟨none, reached.left, again.left⟩

/-- The column of a character that prevents a token. -/
def invalidColumn (source : Text) (blame : Lexer.Blame) : Nat :=
  if blame.inBytes then byteColumnAt source blame.offset else columnAt source blame.offset

/-- The column for a verdict that leaves the characters out of account. -/
def ownColumn (source : Text) (blamed : Option Blame) (latest : Token) : Nat :=
  match blamed with
  | none => if latest.kind = .finish then 1 else columnAt source latest.span.start
  | some (.offset place) | some (.backslash place) => columnAt source place
  | some (.column number) => number
  | some .latest =>
    let column := columnAt source latest.span.start
    if latest.kind = .finish then column - 1 else column
  | some .openBracket | some .character => 1

/-- Whether a token is known to end where it does without a look at what follows: a quotation ends
with its quotes, and no mark is longer than three characters. -/
def endsByItself (kind : TokenKind) : Bool :=
  match kind with
  | .quotation _ => true
  | .mark symbol => symbol.length == 3
  | _ => false

/-- Whether a token ends with the source, so that the end was seen when the token was read. -/
def reachesEnd (ahead : List Token) : Bool :=
  match ahead with
  | [token, finish] => finish.span.start == token.span.stop && !endsByItself token.kind
  | _ => false

/-- The column for a verdict.  A bracket that is open on an earlier line comes first, as does a
character that prevents a token; but not if a line is indented, or if a mistake is found only at the
end of the source. -/
def column (source : Text) (scan : Lexer.Scan) (verdict : Verdict) : Nat :=
  let lookedAt (left : Nat) : List Token := scan.tokens.drop (scan.tokens.length - left)
  let furthest := lookedAt verdict.leastLeft
  match lookedAt verdict.left, verdict.blamed, scan.invalid, scan.unclosed with
  | ⟨.indentation width, _, _⟩ :: _, none, _, _ => width
  | _, _, some blame, _ => invalidColumn source blame
  | _, some (.backslash place), none, _ => columnAt source place
  | _, some .openBracket, none, some bracket => columnAt source bracket
  | latest :: _, blamed, none, some bracket =>
    let line := (furthest.head?.map fun token => lineOf source token.span.start).getD 0
    if (blamed.isNone || !reachesEnd furthest) && lineOf source bracket < line then
      columnAt source bracket
    else ownColumn source blamed latest
  | latest :: _, blamed, none, none => ownColumn source blamed latest
  | [], _, none, _ => 1

/-- The column at which a source goes wrong; none if it can be read.  Formatted texts are nested
less deep than `depth`. -/
def columnIn? (depth : Nat) (grammar : (Rule → Reader Phrase) → Reader Unit) (source : Text) :
    Option Nat :=
  match depth with
  | 0 => none
  | depth + 1 =>
    let judge : Judge := fun text => columnIn? depth field ('(' :: text ++ [')'])
    let scan := Lexer.scan source
    (verdict? judge grammar scan).map (column source scan)

/-- Each formatted text inside another one needs quotes of its own, of which there are four. -/
def formattedDepth : Nat :=
  5

/-- The column at which a source goes wrong; the first one if it can be read after all. -/
def columnOf (source : Text) : Nat :=
  (columnIn? formattedDepth whole source).getD 1

end StepScript.Diagnosis

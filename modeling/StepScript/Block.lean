import StepScript.Statement.Basic

/-!
# Loop blocks

A loop block runs from its header to the line at which every brace opened since is closed.  Its
body is flat: braces inside it matter only for finding its end.  The statements of the body are
those behind the opening brace of the header and the lines between the header and the end.
-/

namespace StepScript

/-- A line of a script, or a statement on it, with the index of the line. -/
structure Line where
  index : Nat
  text : Text
  deriving DecidableEq

def numberLines (start : Nat) : List Text → List Line
  | [] => []
  | text :: rest => ⟨start, text⟩ :: numberLines (start + 1) rest

@[simp] theorem length_numberLines (start : Nat) (lines : List Text) :
    (numberLines start lines).length = lines.length := by
  induction lines generalizing start with
  | nil => rfl
  | cons line rest ih => simp [numberLines, ih]

/-- A loop block: its statements, the index of its last line, and the lines behind it. -/
structure Block where
  body : List Line
  endIndex : Nat
  after : List Line
  deriving DecidableEq

namespace Block

/-- By how much a line deepens the nesting of braces. -/
def braceBalance (line : Text) : Int :=
  let text := stripStatement line
  (text.count '\x7b' : Int) - text.count '\x7d'

/-- Splits lines at the first one at which a brace has been opened and none is open any more.
`depth` and `opened` describe the lines before. -/
def splitAtClose? (depth : Int) (opened : Bool) : List Line → Option (List Line × Line × List Line)
  | [] => none
  | line :: rest =>
    let depth := depth + braceBalance line.text
    let opened := opened || (stripStatement line.text).contains '\x7b'
    if opened && depth ≤ 0 then some ([], line, rest)
    else (splitAtClose? depth opened rest).map fun (before, close) => (line :: before, close)

/-- The statements behind the opening brace of a header.  When the block ends on the header, they
reach up to the last closing brace; a tail without one loses its last character. -/
def headerStatements (header : Text) (closed : Bool) : List Text :=
  match Text.afterFirst? '\x7b' (stripStatement header) with
  | none => []
  | some tail =>
    let inside :=
      if closed then
        match Text.splitAtLast? '\x7d' tail with
        | some (before, _) => before
        | none => tail.dropLast
      else tail
    ((Text.splitAtEach ';' inside).map Text.trim).filter (!·.isEmpty)

/-- The statement on a line inside a block; none for blank lines, comments and single braces. -/
def interiorStatement? (line : Line) : Option Line :=
  let text := Text.trim line.text
  if isBraceOnly text || (Text.after? ['/', '/'] text).isSome then none
  else some ⟨line.index, text⟩

/-- The block that starts with a header.  It must be closed somewhere. -/
def extract (header : Line) (following : List Line) : Except Fault Block :=
  match splitAtClose? 0 false (header :: following) with
  | none => .error (.unclosedBlock (Text.trim header.text))
  | some (before, close, after) =>
    let first := (headerStatements header.text before.isEmpty).map fun text => ⟨header.index, text⟩
    .ok ⟨first ++ before.tail.filterMap interiorStatement?, close.index, after⟩

theorem eq_append_of_splitAtClose? {depth : Int} {opened : Bool} {lines before after : List Line}
    {close : Line} (split : splitAtClose? depth opened lines = some (before, close, after)) :
    lines = before ++ close :: after := by
  induction lines generalizing depth opened before with
  | nil => simp [splitAtClose?] at split
  | cons line rest ih =>
    simp only [splitAtClose?] at split
    split at split
    · simp only [Option.some.injEq, Prod.mk.injEq] at split
      rcases split with ⟨rfl, rfl, rfl⟩
      rfl
    · simp only [Option.map_eq_some_iff, Prod.mk.injEq, Prod.exists] at split
      rcases split with ⟨inner, last, behind, found, rfl, rfl, rfl⟩
      rw [ih found, List.cons_append]

/-- The lines behind a block are fewer than those it was cut from. -/
theorem length_after_extract {header : Line} {following : List Line} {block : Block}
    (extracted : extract header following = .ok block) :
    block.after.length ≤ following.length := by
  unfold extract at extracted
  split at extracted
  · simp at extracted
  · rename_i before close after split
    simp only [Except.ok.injEq] at extracted
    have whole := congrArg List.length (eq_append_of_splitAtClose? split)
    subst extracted
    simp at whole ⊢
    omega

/-- A block found by the position of its header in a list of lines. -/
structure Found where
  body : List (Int × Text)
  endIndex : Int

/-- The block whose header stands at a position.  A negative position counts from the end of the
lines; the scan then goes on from there through all lines, but cannot end before the first.  There
is no answer when no line stands at the position. -/
def locate? (lines : List Text) (position : Int) : Option (Except Fault Found) :=
  let start := if position < 0 then position + lines.length else position
  if start < 0 then none
  else
    let seen := lines.drop start.toNat ++ (if position < 0 then lines else [])
    match numberLines 0 seen with
    | [] => none
    | header :: following =>
      some <| match extract header following with
        | .error fault => .error fault
        | .ok block =>
          if block.endIndex + position < 0 then .error (.unclosedBlock (Text.trim header.text))
          else
            .ok
              { body := block.body.map fun line => (line.index + position, line.text)
                endIndex := block.endIndex + position }

end Block

end StepScript

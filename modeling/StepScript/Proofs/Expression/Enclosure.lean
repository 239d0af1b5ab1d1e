import StepScript.Proofs.Expression.Derivation
import StepScript.Proofs.Expression.Ender

/-!
# Lines of tokens inside of brackets

A line that is a row of tokens by itself is the same row of tokens wherever it stands, as long as an
ender follows and its brackets match.
-/

namespace StepScript.Lexer

open Token StepScript.Expr StepScript.Parser

/-- A text without line ends and comments. -/
def OneLine (text : Text) : Prop :=
  ∀ char ∈ text, char ≠ '#' ∧ char ≠ '\n' ∧ char ≠ '\r'

/-- The characters that separate the tokens of a line. -/
def blanks : List Char :=
  [' ', '\t', '\x0c']

variable {fuel offset : Nat} {stack : List (Char × Nat)} {fresh : Bool} {char : Char}
  {text rest : Text} {kind : TokenKind} {kinds : List TokenKind} {count : Nat}

theorem OneLine.drop (line : OneLine text) (width : Nat) : OneLine (text.drop width) :=
  fun char member => line char (List.mem_of_mem_drop member)

theorem lexeme_of_bracket (bracket : (closer? char).isSome ∨ isCloser char = true) (rest : Text) :
    lexeme char (char :: rest) = .token (.mark [char]) 1 := by
  have known : char ∈ ['(', '[', '\x7b', ')', ']', '\x7d'] := by
    rcases bracket with opener | closer
    · unfold closer? at opener
      split at opener <;> first | decide | cases opener
    · simp only [isCloser, Bool.or_eq_true, beq_iff_eq] at closer
      rcases closer with (rfl | rfl) | rfl <;> decide
  have other : marksQuotation char = false ∧ (char ≠ '"' ∧ char ≠ '\'') ∧ opensName char = false ∧
      char.isDigit = false ∧ char ≠ '.' := by
    simp only [List.mem_cons, List.not_mem_nil, or_false] at known
    rcases known with rfl | rfl | rfl | rfl | rfl | rfl <;> decide
  rcases other with ⟨noLetter, noQuote, noName, noDigit, noPoint⟩
  simp only [lexeme, quotation?_cons_eq_none noLetter noQuote, noName, noDigit, noPoint,
    Bool.false_eq_true, if_false]
  simp only [List.mem_cons, List.not_mem_nil, or_false] at known
  rcases known with rfl | rfl | rfl | rfl | rfl | rfl <;>
    simp [markLexeme, tripleMarks, doubleMarks]

/-! ## Open brackets -/

/-- How the brackets that are open in front of a token and behind it are related. -/
inductive Shifts (char : Char) : List Char → List Char → Prop
  | opens {closers : List Char} {closing : Char} (opener : closer? char = some closing) :
    Shifts char closers (closing :: closers)
  | closes {closers : List Char} (noOpener : closer? char = none) (closer : isCloser char = true) :
    Shifts char (char :: closers) closers
  | keeps {closers : List Char} (noOpener : closer? char = none)
    (noCloser : isCloser char = false) : Shifts char closers closers

theorem Shifts.length {before behind : List Char} (shifts : Shifts char before behind)
    (found : lexeme char (char :: rest) = .token kind count) :
    behind.length = openBehind before.length kind := by
  cases shifts with
  | opens opener =>
    have opens : (closer? char).isSome := Option.isSome_of_eq_some opener
    rw [lexeme_of_bracket (.inl opens)] at found
    cases found
    exact (if_pos opens).symm
  | closes noOpener closer =>
    rw [lexeme_of_bracket (.inr closer)] at found
    cases found
    simp [openBehind, noOpener, closer]
  | keeps noOpener noCloser =>
    have opens := opens_of_lexeme found
    unfold openBehind
    split
    · rename_i symbol
      rcases opens with same | long
      · cases same
        simp [noOpener, noCloser]
      · simp at long
    · rfl

theorem Shifts.length_of_opener {before behind : List Char} (shifts : Shifts char before behind)
    (opens : (closer? char).isSome) : behind.length = before.length + 1 := by
  cases shifts with
  | opens opener => rfl
  | closes noOpener closer => simp [noOpener] at opens
  | keeps noOpener noCloser => simp [noOpener] at opens

/-! ## Rows of tokens -/

/-- A line is a row of tokens that ends with some brackets open if it begins with some. -/
inductive Row : List Char → Text → List TokenKind → List Char → Prop
  | done (closers : List Char) : Row closers [] [] closers
  | blank {closers final : List Char} {char : Char} {rest : Text} {kinds : List TokenKind}
    (hidden : char ∈ blanks) (more : Row closers rest kinds final) :
    Row closers (char :: rest) kinds final
  | token {closers middle final : List Char} {char : Char} {rest : Text} {kind : TokenKind}
    {kinds : List TokenKind} {count : Nat} (visible : char ∉ separators)
    (found : lexeme char (char :: rest) = .token kind count) (shifts : Shifts char closers middle)
    (more : Row middle ((char :: rest).drop count) kinds final) :
    Row closers (char :: rest) (kind :: kinds) final

theorem Row.length {closers final : List Char} (row : Row closers text kinds final) :
    final.length = kinds.foldl openBehind closers.length := by
  induction row with
  | done closers => rfl
  | blank hidden more ih => exact ih
  | token visible found shifts more ih => rw [List.foldl_cons, ← shifts.length found, ih]

/-- What stands in brackets that match is closed by the last one. -/
theorem Row.eq_nil {final : List Char} (row : Row [] text kinds final) (balanced : Balanced kinds) :
    final = [] :=
  List.eq_nil_of_length_eq_zero (row.length.trans (balanced.openBehind_eq 0))

theorem scanFrom_hidden (hidden : char ∈ blanks) (fuel offset : Nat) (stack : List (Char × Nat))
    (rest : Text) :
    scanFrom (fuel + 1) offset stack false (char :: rest) =
      scanFrom fuel (offset + 1) stack false rest := by
  have blank : char = ' ' ∨ char = '\t' ∨ char = '\x0c' := by simpa [blanks] using hidden
  conv_lhs => unfold scanFrom
  simp [blank]

/-- A token that shifts the innermost brackets does so above any others, if one more may be
opened. -/
theorem scanFrom_shift {inner : List (Char × Nat)} {closers : List Char}
    (visible : char ∉ separators) (found : lexeme char (char :: rest) = .token kind count)
    (shifts : Shifts char (inner.map Prod.fst) closers) (fuel offset : Nat) (fresh : Bool)
    (outer : List (Char × Nat))
    (room : (closer? char).isSome → inner.length + outer.length < bracketLimit) :
    ∃ inner' token, inner'.map Prod.fst = closers ∧ token.kind = kind ∧
      scanFrom (fuel + 1) offset (inner ++ outer) fresh (char :: rest) =
        (scanFrom fuel (offset + count) (inner' ++ outer) false
          ((char :: rest).drop count)).push token := by
  generalize same : inner.map Prod.fst = closers' at shifts
  cases shifts with
  | @opens _ closing opener =>
    have opens : (closer? char).isSome := Option.isSome_of_eq_some opener
    have bracket := found
    rw [lexeme_of_bracket (.inl opens)] at bracket
    cases bracket
    have free : (inner ++ outer).length < bracketLimit := by
      rw [List.length_append]
      exact room opens
    exact ⟨(closing, offset) :: inner, _, by simp [same], rfl,
      scanFrom_opener visible opener free found⟩
  | closes noOpener closer =>
    have bracket := found
    rw [lexeme_of_bracket (.inr closer)] at bracket
    cases bracket
    rcases inner with _ | ⟨⟨closing, place⟩, inner⟩
    · cases same
    · cases same
      exact ⟨inner, _, rfl, rfl, scanFrom_closer visible noOpener closer found⟩
  | keeps noOpener noCloser =>
    exact ⟨inner, _, same, rfl, scanFrom_token visible noOpener noCloser found⟩

/-- In front of a character that is no separator, a scan without an invalid character finds a
token. -/
theorem exists_token (visible : char ∉ separators)
    (valid : (scanFrom (fuel + 1) offset stack fresh (char :: rest)).invalid = none) :
    ∃ kind count closers, lexeme char (char :: rest) = .token kind count ∧
      Shifts char (stack.map Prod.fst) closers ∧
        ((closer? char).isSome → stack.length < bracketLimit) := by
  simp only [separators, List.mem_cons, List.not_mem_nil, or_false, not_or] at visible
  unfold scanFrom at valid
  simp only [visible, or_self, if_false] at valid
  cases found : lexeme char (char :: rest) with
  | invalid place => simp [found, Scan.refuse] at valid
  | leadingZeros => simp [found] at valid
  | token kind count =>
    simp only [found] at valid
    split at valid
    · rename_i opener
      split at valid
      · simp [Scan.refuse] at valid
      · rename_i room
        exact ⟨kind, count, _, rfl, .opens opener, fun _ => not_le.mp room⟩
    · rename_i noOpener closer
      split at valid
      · rename_i same
        subst same
        exact ⟨kind, count, _, rfl, .closes noOpener closer, by simp [noOpener]⟩
      · simp [Scan.refuse] at valid
    · simp [Scan.refuse] at valid
    · rename_i noOpener noCloser
      exact ⟨kind, count, _, rfl, .keeps noOpener noCloser, by simp [noOpener]⟩

/-- Such a scan goes on behind the token. -/
theorem exists_push (visible : char ∉ separators)
    (valid : (scanFrom (fuel + 1) offset stack fresh (char :: rest)).invalid = none) :
    ∃ count inner token, lexeme char (char :: rest) = .token token.kind count ∧
      Shifts char (stack.map Prod.fst) (inner.map Prod.fst) ∧
      scanFrom (fuel + 1) offset stack fresh (char :: rest) =
        (scanFrom fuel (offset + count) inner false ((char :: rest).drop count)).push token := by
  rcases exists_token visible valid with ⟨kind, count, closers, found, shifts, room⟩
  rcases scanFrom_shift visible found shifts fuel offset fresh [] room with
    ⟨inner, token, rfl, rfl, scanned⟩
  rw [List.append_nil, List.append_nil] at scanned
  exact ⟨count, inner, token, found, shifts, scanned⟩

theorem scanFrom_backslash (line : OneLine rest) (fuel offset : Nat) (stack : List (Char × Nat))
    (fresh : Bool) :
    ∃ place, (scanFrom (fuel + 1) offset stack fresh ('\\' :: rest)).tokens.map Token.kind =
      [.strayBackslash place] := by
  unfold scanFrom
  rcases rest with _ | ⟨next, rest⟩
  · exact ⟨offset, by simp⟩
  · have others := line next List.mem_cons_self
    exact ⟨offset + 1, by simp [others]⟩

/-- It does not matter whether a line is the first one, if it does not begin with a blank. -/
theorem scan_eq_scanFrom (line : OneLine text) (solid : ∀ char ∈ text.head?, char ∉ blanks) :
    scan text = scanFrom (text.length + 1) 0 [] false text := by
  cases text with
  | nil => rfl
  | cons char rest =>
    have noBlank := solid char rfl
    have others := line char List.mem_cons_self
    simp only [blanks, List.mem_cons, List.not_mem_nil, or_false, not_or] at noBlank
    unfold scan scanFrom
    simp [noBlank, others]

theorem OneLine.visible (line : OneLine (char :: rest)) (noBlank : char ∉ blanks)
    (noBackslash : char ≠ '\\') : char ∉ separators := by
  have others := line char List.mem_cons_self
  simp only [blanks, List.mem_cons, List.not_mem_nil, or_false, not_or] at noBlank
  simp [separators, noBlank, noBackslash, others]

/-- No token of a line is a line end. -/
theorem newline_notMem (line : OneLine text)
    (valid : (scanFrom fuel offset stack false text).invalid = none) :
    .newline ∉ (scanFrom fuel offset stack false text).tokens.map Token.kind := by
  induction fuel generalizing offset stack text with
  | zero => simp [scanFrom]
  | succ fuel ih =>
    cases text with
    | nil => simp [scanFrom]
    | cons char rest =>
      by_cases hidden : char ∈ blanks
      · rw [scanFrom_hidden hidden] at valid ⊢
        exact ih (line.drop 1) valid
      · by_cases stray : char = '\\'
        · subst stray
          rcases scanFrom_backslash (line.drop 1) fuel offset stack false with ⟨place, scanned⟩
          rw [List.drop_one, List.tail_cons] at scanned
          simp [scanned]
        · have visible := line.visible hidden stray
          rcases exists_push visible valid with ⟨count, inner, token, found, -, scanned⟩
          rw [scanned] at valid ⊢
          have other : token.kind ≠ .newline := by
            intro same
            exact (same ▸ opens_of_lexeme found : Opens char .newline).elim
          simpa [Scan.push, other.symm] using ih (line.drop count) valid

/-- A line whose scan begins with plain tokens and then ends is a row of these tokens. -/
theorem row_of_scanFrom {last : List TokenKind} (line : OneLine text) (enough : text.length < fuel)
    (valid : (scanFrom fuel offset stack false text).invalid = none)
    (spelled : (scanFrom fuel offset stack false text).tokens.map Token.kind = kinds ++ last)
    (plain : ∀ kind ∈ kinds, kind.isPlain = true)
    (ended : last = [] ∨ ∃ more, last = .finish :: more) :
    ∃ final, Row (stack.map Prod.fst) text kinds final := by
  induction fuel generalizing offset stack text kinds with
  | zero => exact absurd enough (Nat.not_lt_zero _)
  | succ fuel ih =>
    cases text with
    | nil =>
      cases kinds with
      | nil => exact ⟨_, .done _⟩
      | cons kind kinds =>
        have same : TokenKind.finish = kind := (List.cons.inj spelled).1
        exact absurd (plain kind List.mem_cons_self) (by simp [← same, TokenKind.isPlain])
    | cons char rest =>
      by_cases hidden : char ∈ blanks
      · rw [scanFrom_hidden hidden] at valid spelled
        rcases ih (line.drop 1) (by simpa using enough) valid spelled plain with ⟨final, row⟩
        exact ⟨final, .blank hidden row⟩
      · by_cases stray : char = '\\'
        · subst stray
          rcases scanFrom_backslash (line.drop 1) fuel offset stack false with ⟨place, scanned⟩
          rw [List.drop_one, List.tail_cons] at scanned
          rw [scanned] at spelled
          cases kinds with
          | nil =>
            rcases ended with rfl | ⟨more, rfl⟩
            · cases spelled
            · cases spelled
          | cons kind kinds =>
            have same := (List.cons.inj spelled).1
            exact absurd (plain kind List.mem_cons_self) (by simp [← same, TokenKind.isPlain])
        · have visible := line.visible hidden stray
          rcases exists_push visible valid with ⟨count, inner, token, found, shifts, scanned⟩
          rw [scanned] at valid spelled
          cases kinds with
          | nil =>
            rcases ended with rfl | ⟨more, rfl⟩
            · cases spelled
            · have finish : token.kind = .finish := (List.cons.inj spelled).1
              exact (finish ▸ opens_of_lexeme found : Opens char .finish).elim
          | cons first kinds =>
            obtain rfl : token.kind = first := (List.cons.inj spelled).1
            have keeps := keeps_lexeme
              (unquoted_of_lexeme found (plain token.kind List.mem_cons_self))
            have positive := keeps.length_pos found
            have inside := keeps.length_le found
            have shorter : ((char :: rest).drop count).length < fuel := by
              rw [List.length_drop]
              omega
            rcases ih (line.drop count) shorter valid (List.cons.inj spelled).2
              (fun kind member => plain kind (List.mem_cons_of_mem _ member)) with ⟨final, row⟩
            exact ⟨final, .token visible found shifts row⟩

/-- A row of plain tokens is read in front of an ender, whatever brackets are open around it. -/
theorem Row.scans_within {closers final : List Char} (row : Row closers text kinds final)
    (plain : ∀ kind ∈ kinds, kind.isPlain = true) {outer : List (Char × Nat)} {behind : Text}
    (before : Before enders behind) :
    ∀ (fuel offset : Nat) (inner : List (Char × Nat)), inner.map Prod.fst = closers →
      (text ++ behind).length < fuel →
      deepest inner.length kinds + outer.length ≤ bracketLimit →
      ∃ inner' tokens left, inner'.map Prod.fst = final ∧ tokens.map Token.kind = kinds ∧
        behind.length < left ∧ scanFrom fuel offset (inner ++ outer) false (text ++ behind) =
          (scanFrom left (offset + text.length) (inner' ++ outer) false behind).pushAll tokens := by
  induction row with
  | done closers =>
    intro fuel offset inner placed enough _
    exact ⟨inner, [], fuel, placed, rfl, by simpa using enough, rfl⟩
  | @blank closers final char rest kinds hidden more ih =>
    rintro (_ | fuel) offset inner placed enough room
    · exact absurd enough (Nat.not_lt_zero _)
    rw [List.cons_append, List.length_cons, Nat.add_lt_add_iff_right] at enough
    rcases ih plain fuel (offset + 1) inner placed enough room with
      ⟨inner', tokens, left, placed, spelled, enough, scanned⟩
    refine ⟨inner', tokens, left, placed, spelled, enough, ?_⟩
    rw [List.cons_append, scanFrom_hidden hidden, scanned, List.length_cons, Nat.add_assoc,
      Nat.add_comm 1]
  | @token closers middle final char rest kind kinds count visible found shifts more ih =>
    rintro (_ | fuel) offset inner rfl enough room
    · exact absurd enough (Nat.not_lt_zero _)
    have keeps := keeps_lexeme (unquoted_of_lexeme found (plain kind List.mem_cons_self))
    have positive := keeps.length_pos found
    have inside := keeps.length_le found
    have foundBehind : lexeme char (char :: (rest ++ behind)) = .token kind count := by
      rcases behind with _ | ⟨next, behind⟩
      · rwa [List.append_nil]
      · exact (keeps.append_iff (endsToken_of_mem (before next rfl)) behind kind count).mpr found
    have dropped : (char :: (rest ++ behind)).drop count = (char :: rest).drop count ++ behind :=
      List.drop_append_of_le_length inside
    have shifted := shifts.length found
    rw [List.length_map] at shifted
    have deeper := Balanced.le_deepest (openBehind inner.length kind) kinds
    rw [deepest] at room
    have free : (closer? char).isSome → inner.length + outer.length < bracketLimit := by
      intro opens
      have one := shifts.length_of_opener opens
      rw [List.length_map] at one
      omega
    rcases scanFrom_shift visible foundBehind shifts fuel offset false outer free with
      ⟨inner', token, placed, kindly, scanned⟩
    have length : inner'.length = openBehind inner.length kind := by
      rw [← shifted, ← placed, List.length_map]
    have shorter : ((char :: rest).drop count ++ behind).length < fuel := by
      simp only [List.length_append, List.length_drop, List.length_cons] at enough inside ⊢
      omega
    rcases ih (fun kind member => plain kind (List.mem_cons_of_mem _ member)) fuel (offset + count)
      inner' placed shorter (by rw [length]; omega) with
      ⟨inner'', tokens, left, placed, spelled, enough, rescanned⟩
    refine ⟨inner'', token :: tokens, left, placed, by simp [spelled, kindly], enough, ?_⟩
    have whole : offset + count + ((char :: rest).drop count).length =
        offset + (char :: rest).length := by
      rw [List.length_drop]
      omega
    rw [List.cons_append, scanned, dropped, rescanned, whole]
    rfl

/-- A row of plain tokens with matching brackets is read wherever an ender follows. -/
theorem Row.scans {final : List Char} (row : Row [] text kinds final)
    (plain : ∀ kind ∈ kinds, kind.isPlain = true) (balanced : Balanced kinds) :
    Scans (nesting kinds) (Before enders) text kinds := by
  intro fuel offset stack behind before enough room
  rw [Nat.add_comm] at room
  rcases row.scans_within plain before fuel offset [] rfl enough room with
    ⟨inner, tokens, left, placed, spelled, enough, scanned⟩
  rw [row.eq_nil balanced, List.map_eq_nil_iff] at placed
  subst placed
  exact ⟨tokens, left, spelled, enough, scanned⟩

/-- A text that is one plain token and no bracket is read so wherever an ender follows. -/
theorem scans_of_lexeme (visible : char ∉ separators) (noOpener : closer? char = none)
    (noCloser : isCloser char = false)
    (found : lexeme char (char :: rest) = .token kind (char :: rest).length)
    (plain : kind.isPlain = true) : Scans 0 (Before enders) (char :: rest) [kind] := by
  have keeps (closers : List Char) : Shifts char closers closers := .keeps noOpener noCloser
  have flat (count : Nat) : openBehind count kind = count := by
    have length := (keeps (List.replicate count char)).length found
    rw [List.length_replicate] at length
    exact length.symm
  have row : Row [] (char :: rest) [kind] [] :=
    .token visible found (keeps []) (by rw [List.drop_length]; exact .done [])
  have scans := row.scans (by simpa using plain) (.single flat)
  simpa [nesting, deepest, flat] using scans

end StepScript.Lexer

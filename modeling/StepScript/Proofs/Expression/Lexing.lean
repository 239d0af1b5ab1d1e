import StepScript.Proofs.Expression.Pieces
import StepScript.Proofs.Number.Digits

/-!
# Reading the tokens of an expression

The lexer takes the longest token, so a piece is read as one token only in front of a text that
cannot lengthen it.  What may follow an expression depends on nothing but how tightly it is bound.
-/

namespace StepScript

open Lexer Token

/-! ## Numbers and names -/

namespace Expr

/-- The token of a numeral. -/
def Constant.kind (constant : Constant) : TokenKind :=
  if constant.fraction.isEmpty then .integer constant.whole else .double constant.value

def Piece.kind? : Piece → Option TokenKind
  | .numeral constant => some constant.kind
  | .name identifier => some (.name identifier.text)
  | .mark symbol => some (.mark symbol)
  | .blank => none

/-- The characters that may follow any expression. -/
def delimiters : List Char :=
  [' ', ')', ']', ',']

/-- The characters that may follow an expression that can be indexed. -/
def continuations : List Char :=
  ['.', '[']

/-- Whether a text is empty or begins with one of some characters. -/
def Before (allowed : List Char) (rest : Text) : Prop :=
  ∀ char ∈ rest.head?, char ∈ allowed

theorem Before.mono {some more : List Char} (sub : some ⊆ more) {rest : Text}
    (before : Before some rest) : Before more rest :=
  fun char head => sub (before char head)

theorem before_nil (allowed : List Char) : Before allowed [] := by
  simp [Before]

theorem before_cons {allowed : List Char} {char : Char} {rest : Text} :
    Before allowed (char :: rest) ↔ char ∈ allowed := by
  simp [Before]

/-- A numeral denotes the number whose digits it has. -/
theorem Constant.digitsValue_digits (constant : Constant) :
    Text.digitsValue constant.digits = constant.whole :=
  Number.digitsValue_digitsOf constant.whole

theorem Constant.no_leading_zero (constant : Constant) :
    (constant.digits.head? == some '0' && constant.digits.any (· != '0')) = false := by
  rcases Nat.eq_zero_or_pos constant.whole with zero | positive
  · simp [digits, zero]
  · have leading : constant.digits.head? ≠ some '0' := Number.head_digitsOf_ne_zero positive
    simp [leading]

theorem length_toDigits_le {number count : Nat} (positive : 0 < count)
    (small : number < 10 ^ count) : (Nat.toDigits 10 number).length ≤ count :=
  (Nat.length_toDigits_le_iff (by decide) positive).mpr small

theorem Constant.length_digits_le (constant : Constant) : constant.digits.length ≤ digitLimit := by
  have short : constant.digits.length ≤ 300 := length_toDigits_le (by decide) constant.bounded
  exact short.trans (by decide)

end Expr

namespace Lexer

open StepScript.Expr

/-- A run of digits ends in front of a character that is neither a digit nor an underscore. -/
theorem digitRun_append {digits rest : Text} (each : ∀ char ∈ digits, char.isDigit = true)
    (ends : ∀ char ∈ rest.head?, char.isDigit = false ∧ char ≠ '_') :
    digitRun Char.isDigit (digits ++ rest) = .ok (digits, digits.length) := by
  induction digits with
  | nil =>
    cases rest with
    | nil => rfl
    | cons char rest =>
      have stop := ends char rfl
      simp [digitRun, stop]
  | cons char digits ih =>
    have digit : char.isDigit = true := each char List.mem_cons_self
    have others := ih fun other member => each other (List.mem_cons_of_mem _ member)
    simp [digitRun, digit, others]

/-- Nothing that may follow an expression lengthens a numeral. -/
structure EndsNumber (char : Char) : Prop where
  isDigit : char.isDigit = false
  continuesName : continuesName char = false
  ne_underscore : char ≠ '_'
  ne_point : char ≠ '.'
  ne_exponent : ¬(char = 'e' ∨ char = 'E')
  ne_unit : char ≠ 'j' ∧ char ≠ 'J'

theorem endsNumber_of_before {rest : Text} (before : Before delimiters rest) :
    ∀ char ∈ rest.head?, EndsNumber char := by
  intro char head
  have allowed := before char head
  simp only [delimiters, List.mem_cons, List.not_mem_nil, or_false] at allowed
  rcases allowed with rfl | rfl | rfl | rfl <;> constructor <;> decide

theorem exponentPart_of_before {rest : Text} (before : Before delimiters rest) :
    exponentPart rest = .ok none := by
  cases rest with
  | nil => rfl
  | cons char rest =>
    rw [exponentPart, if_neg (endsNumber_of_before before char rfl).ne_exponent]

theorem endNumber_of_before (kind : TokenKind) (length : Nat) {rest : Text}
    (before : Before delimiters rest) : endNumber kind length rest = .token kind length := by
  cases rest with
  | nil => rfl
  | cons char rest => simp [endNumber, (endsNumber_of_before before char rfl).continuesName]

theorem digitRun_digits (constant : Constant) {behind : Text}
    (ends : ∀ char ∈ behind.head?, char.isDigit = false ∧ char ≠ '_') :
    digitRun Char.isDigit (constant.digits ++ behind) =
      .ok (constant.digits, constant.digits.length) :=
  digitRun_append (fun _ => Constant.isDigit_of_mem_digits) ends

theorem decimalNumber_of_integer {constant : Constant} (plain : constant.fraction.isEmpty = true)
    {rest : Text} (before : Before delimiters rest) :
    decimalNumber (constant.text ++ rest) = .token constant.kind constant.text.length := by
  have stop := endsNumber_of_before before
  have noExponent := exponentPart_of_before before
  have ends (kind : TokenKind) (length : Nat) := endNumber_of_before kind length before
  have text : constant.text = constant.digits := by simp [Constant.text, plain]
  have kind : constant.kind = .integer constant.whole := by simp [Constant.kind, plain]
  have short : ¬digitLimit < constant.digits.length := not_lt.mpr constant.length_digits_le
  have run := digitRun_digits constant
    fun char head => ⟨(stop char head).isDigit, (stop char head).ne_underscore⟩
  rw [text, kind, decimalNumber, run]
  rcases rest with _ | ⟨char, behind⟩
  · simp [exponentPart, endNumber, short, constant.no_leading_zero, constant.digitsValue_digits]
  · have allowed := before_cons.mp before
    simp only [delimiters, List.mem_cons, List.not_mem_nil, or_false] at allowed
    rcases allowed with rfl | rfl | rfl | rfl <;>
      simp [noExponent, ends, short, constant.no_leading_zero, constant.digitsValue_digits]

theorem decimalNumber_of_double {constant : Constant} (pointed : constant.fraction.isEmpty = false)
    {rest : Text} (before : Before delimiters rest) :
    decimalNumber (constant.text ++ rest) = .token constant.kind constant.text.length := by
  have stop := endsNumber_of_before before
  have noExponent := exponentPart_of_before before
  have ends (kind : TokenKind) (length : Nat) := endNumber_of_before kind length before
  have places : digitRun Char.isDigit (constant.places ++ rest) =
      .ok (constant.places, constant.places.length) :=
    digitRun_append (fun _ => Constant.isDigit_of_mem_places)
      fun char head => ⟨(stop char head).isDigit, (stop char head).ne_underscore⟩
  have text : constant.text = constant.digits ++ '.' :: constant.places := by
    simp [Constant.text, pointed]
  have kind : constant.kind =
      .double (Numeral.mk false constant.digits constant.places 0).toFloat := by
    simp [Constant.kind, Constant.value, pointed]
  have run : digitRun Char.isDigit (constant.digits ++ '.' :: (constant.places ++ rest)) =
      .ok (constant.digits, constant.digits.length) := digitRun_digits constant (by simp)
  obtain ⟨place, others, some⟩ : ∃ place others, constant.places = place :: others := by
    apply List.exists_cons_of_ne_nil
    simpa [Constant.places] using pointed
  have digit : place.isDigit = true :=
    Constant.isDigit_of_mem_places (some ▸ List.mem_cons_self)
  have length : constant.text.length = constant.digits.length + (1 + constant.places.length) := by
    simp [text, Nat.add_comm]
  have behind :
      (constant.text ++ rest).drop (constant.digits.length + (1 + constant.places.length)) =
        rest := by
    rw [← length, List.drop_left]
  rw [length, kind]
  rw [text, List.append_assoc, List.cons_append] at behind ⊢
  rw [decimalNumber, run]
  simp only [List.drop_left]
  rw [some, List.cons_append] at places behind ⊢
  simp only [digit, if_true, places, behind, noExponent, Option.map_none, Option.getD_none,
    Nat.add_zero, Bool.not_true, Bool.false_and, Bool.false_eq_true, if_false]
  rcases rest with _ | ⟨char, rest⟩
  · exact ends _ _
  · have allowed := before_cons.mp before
    simp only [delimiters, List.mem_cons, List.not_mem_nil, or_false] at allowed
    rcases allowed with rfl | rfl | rfl | rfl <;> exact ends _ _

/-- A numeral is read as a whole. -/
theorem decimalNumber_constant (constant : Constant) {rest : Text}
    (before : Before delimiters rest) :
    decimalNumber (constant.text ++ rest) = .token constant.kind constant.text.length := by
  cases fraction : constant.fraction.isEmpty with
  | true => exact decimalNumber_of_integer fraction before
  | false => exact decimalNumber_of_double fraction before

/-- A number is decimal if no letter for another base follows its first digit. -/
theorem number_eq_decimalNumber {text : Text}
    (decimal : ∀ char ∈ text.tail.head?, char ∉ ['x', 'X', 'o', 'O', 'b', 'B']) :
    number text = decimalNumber text := by
  unfold number
  split
  case h_7 => rfl
  all_goals exact absurd (decimal _ rfl) (by decide)

/-- Letters that may stand in front of a quotation. -/
def marksQuotation (char : Char) : Bool :=
  "bBrRuUfF".toList.contains char

/-- A text whose first character behind such letters is no quote begins with no quotation. -/
theorem quotation?_eq_none {text : Text}
    (unquoted : ∀ char ∈ (text.dropWhile marksQuotation).head?, char ≠ '"' ∧ char ≠ '\'') :
    quotation? text = none := by
  have behind : text.drop (text.takeWhile fun char => "bBrRuUfF".toList.contains char).length =
      text.dropWhile marksQuotation :=
    calc text.drop (text.takeWhile marksQuotation).length
        = (text.takeWhile marksQuotation ++ text.dropWhile marksQuotation).drop
            (text.takeWhile marksQuotation).length := by rw [List.takeWhile_append_dropWhile]
      _ = text.dropWhile marksQuotation := List.drop_left
  unfold quotation?
  dsimp only
  rw [behind]
  split
  · split
    · next quote rest same =>
      have plain := unquoted quote (by rw [same]; rfl)
      simp [plain]
    · rfl
  · rfl

theorem quotation?_cons_eq_none {char : Char} {rest : Text} (plain : marksQuotation char = false)
    (unquoted : char ≠ '"' ∧ char ≠ '\'') : quotation? (char :: rest) = none := by
  apply quotation?_eq_none
  rw [List.dropWhile_cons_of_neg (by simp [plain])]
  simpa using unquoted

theorem lexeme_digit {char : Char} (digit : char.isDigit = true) (rest : Text) :
    lexeme char (char :: rest) = number (char :: rest) := by
  have range := toNat_of_isAlphanum (isAlphanum_of_isDigit digit)
  have unquoted : quotation? (char :: rest) = none := by
    apply quotation?_cons_eq_none
    · simp only [marksQuotation, List.contains_eq_mem, decide_eq_false_iff_not]
      intro letter
      have known : ∀ char ∈ "bBrRuUfF".toList, char.isDigit = false := by simp
      rw [known char letter] at digit
      exact absurd digit (by decide)
    · constructor <;> rintro rfl <;> exact absurd digit (by decide)
  have noName : opensName char = false := by
    have noLetter : char.isAlpha = false ∧ char ≠ '_' := by
      constructor
      · simp only [Char.isDigit, Char.isAlpha, Char.isUpper, Char.isLower] at digit ⊢
        grind
      · rintro rfl
        exact absurd digit (by decide)
    simp [opensName, noLetter, show ¬128 ≤ char.toNat by omega]
  simp only [lexeme, unquoted, noName, digit, Bool.false_eq_true, if_false, if_true]

theorem lexeme_constant (constant : Constant) {rest : Text} (before : Before delimiters rest) :
    ∃ char others, constant.text = char :: others ∧ char.isDigit = true ∧
      lexeme char (constant.text ++ rest) = .token constant.kind constant.text.length := by
  obtain ⟨char, digits, whole⟩ := List.exists_cons_of_ne_nil constant.digits_ne_nil
  have digit : char.isDigit = true := Constant.isDigit_of_mem_digits (whole ▸ List.mem_cons_self)
  obtain ⟨others, text⟩ : ∃ others, constant.text = char :: others := by
    unfold Constant.text
    split <;> rw [whole]
    · exact ⟨digits, rfl⟩
    · exact ⟨_, List.cons_append⟩
  have decimal : number (constant.text ++ rest) = decimalNumber (constant.text ++ rest) := by
    apply number_eq_decimalNumber
    intro second head
    rw [text, List.cons_append, List.tail_cons, List.head?_append] at head
    rcases Option.or_eq_some_iff.mp head with inside | ⟨_, behind⟩
    · have member : second ∈ constant.text :=
        text ▸ List.mem_cons_of_mem _ (List.mem_of_mem_head? inside)
      rcases Constant.isDigit_or_point member with digit | rfl
      · intro letter
        simp only [List.mem_cons, List.not_mem_nil, or_false] at letter
        rcases letter with rfl | rfl | rfl | rfl | rfl | rfl <;> exact absurd digit (by decide)
      · decide
    · have known : ∀ char ∈ delimiters, char ∉ ['x', 'X', 'o', 'O', 'b', 'B'] := by
        simp [delimiters]
      exact known second (before second behind)
  refine ⟨char, others, text, digit, ?_⟩
  rw [← decimalNumber_constant constant before, ← decimal, text, List.cons_append,
    lexeme_digit digit]

/-- What stands behind an identifier neither continues it nor quotes anything. -/
theorem stops_of_before {rest : Text} (before : Before (delimiters ++ continuations) rest) :
    ∀ char ∈ rest.head?, continuesName char = false ∧ marksQuotation char = false ∧
      char ≠ '"' ∧ char ≠ '\'' := by
  intro char head
  have allowed := before char head
  simp only [delimiters, continuations, List.mem_append, List.mem_cons, List.not_mem_nil,
    or_false] at allowed
  rcases allowed with (rfl | rfl | rfl | rfl) | rfl | rfl <;> decide

theorem continues_of_mem_text {identifier : Identifier} (char : Char)
    (member : char ∈ identifier.text) :
    continuesName char = true ∧ char ≠ '"' ∧ char ≠ '\'' := by
  refine ⟨?_, ?_, ?_⟩
  · rcases Identifier.isWord_of_mem member with letter | same
    · simp [continuesName, letter]
    · simp [continuesName, same]
  all_goals
    rintro rfl
    exact absurd (Identifier.isSolid_of_mem member) (by decide)

theorem quotation?_identifier (identifier : Identifier) {rest : Text}
    (before : Before (delimiters ++ continuations) rest) :
    quotation? (identifier.text ++ rest) = none := by
  have ends := stops_of_before before
  apply quotation?_eq_none
  intro char head
  rw [List.dropWhile_append] at head
  split at head
  · cases rest with
    | nil => simp at head
    | cons next rest =>
      have stop := ends next rfl
      rw [List.dropWhile_cons_of_neg (by simp [stop])] at head
      exact (ends char head).2.2
  · next nonempty =>
    rw [List.head?_append_of_ne_nil _ (by simpa using nonempty)] at head
    have member := (List.dropWhile_sublist _).subset (List.mem_of_mem_head? head)
    exact (continues_of_mem_text char member).2

theorem badCharacter?_identifier (identifier : Identifier) :
    badCharacter? identifier.text = none := by
  have small : identifier.first.toNat < 128 := Identifier.toNat_lt_of_mem identifier.first_mem
  have start : Text.isNameStart identifier.first = true := by
    simpa [Text.isNameStart, small] using identifier.opens
  have others : identifier.rest.findIdx? (fun char => !Text.isNameRest char) = none := by
    rw [List.findIdx?_eq_none_iff]
    intro char member
    have small : char.toNat < 128 := Identifier.toNat_lt_of_mem (List.mem_cons_of_mem _ member)
    rcases identifier.continues char member with letter | same
    · simp [Text.isNameRest, small, letter]
    · simp [Text.isNameRest, same]
  simp [Identifier.text, badCharacter?, start, others]

theorem lexeme_identifier (identifier : Identifier) {rest : Text}
    (before : Before (delimiters ++ continuations) rest) :
    lexeme identifier.first (identifier.text ++ rest) =
      .token (.name identifier.text) identifier.text.length := by
  have ends := stops_of_before before
  have unquoted := quotation?_identifier identifier before
  have good := badCharacter?_identifier identifier
  have spelled : (identifier.text ++ rest).takeWhile continuesName = identifier.text := by
    rw [List.takeWhile_append_of_pos fun char member => (continues_of_mem_text char member).1]
    cases rest with
    | nil => simp
    | cons next rest => simp [(ends next rfl).1]
  have named : opensName identifier.first = true := by
    rcases identifier.opens with letter | same
    · simp [opensName, letter]
    · simp [opensName, same]
  have free : reservedWords.contains identifier.text = false := by
    simpa [Identifier.text] using identifier.free
  unfold lexeme
  simp only [unquoted, named, if_true, nameLexeme, spelled, free, good,
    Bool.false_eq_true, if_false]

/-- What begins with no letter, digit, quote or point is a mark. -/
theorem lexeme_mark {char : Char} {rest : Text}
    (sign : char ∈ ['(', ')', '[', ']', ',', '+', '-', '*', '/', '%', '<', '>', '=', '!']) :
    lexeme char (char :: rest) = markLexeme char (char :: rest) := by
  have other : marksQuotation char = false ∧ (char ≠ '"' ∧ char ≠ '\'') ∧
      opensName char = false ∧ char.isDigit = false ∧ char ≠ '.' := by
    simp only [List.mem_cons, List.not_mem_nil, or_false] at sign
    rcases sign with rfl | rfl | rfl | rfl | rfl | rfl | rfl | rfl | rfl | rfl | rfl | rfl |
      rfl | rfl <;>
      decide
  rcases other with ⟨noLetter, noQuote, noName, noDigit, noPoint⟩
  unfold lexeme
  simp [quotation?_cons_eq_none noLetter noQuote, noName, noDigit, noPoint]

theorem lexeme_bracket {char : Char} (bracket : char ∈ ['(', ')', '[', ']', ',']) (rest : Text) :
    lexeme char (char :: rest) = .token (.mark [char]) 1 := by
  simp only [List.mem_cons, List.not_mem_nil, or_false] at bracket
  rcases bracket with rfl | rfl | rfl | rfl | rfl <;> rw [lexeme_mark (by decide)] <;>
    simp [markLexeme, tripleMarks, doubleMarks]

theorem lexeme_sign (sign : Sign) {next : Char} (apart : next ≠ '=' ∧ next ≠ '>') (rest : Text) :
    ∃ char, sign.symbol = [char] ∧
      lexeme char (char :: next :: rest) = .token (.mark sign.symbol) 1 := by
  cases sign <;> refine ⟨_, rfl, ?_⟩ <;> rw [lexeme_mark (by decide)] <;>
    simp [markLexeme, tripleMarks, doubleMarks, Sign.symbol, apart]

theorem lexeme_operator {symbol : Text} (known : symbol ∈ operators) (rest : Text) :
    ∃ char behind, symbol = char :: behind ∧
      lexeme char (symbol ++ ' ' :: rest) = .token (.mark symbol) symbol.length := by
  simp only [operators, List.mem_cons, List.not_mem_nil, or_false] at known
  rcases known with rfl | rfl | rfl | rfl | rfl | rfl | rfl | rfl | rfl | rfl | rfl <;>
    refine ⟨_, _, rfl, ?_⟩ <;> rw [List.cons_append, lexeme_mark (by decide)] <;>
    simp [markLexeme, tripleMarks, doubleMarks]

theorem lexeme_point (rest : Text) : lexeme '.' ('.' :: 'l' :: rest) = .token (.mark ['.']) 1 := by
  have unquoted : quotation? ('.' :: 'l' :: rest) = none :=
    quotation?_cons_eq_none (by decide) (by decide)
  unfold lexeme
  simp [unquoted, opensName, markLexeme, tripleMarks, doubleMarks]

/-! ## Scanning -/

/-- Adds tokens in front. -/
def Scan.pushAll (tokens : List Token) (scan : Scan) : Scan :=
  { scan with tokens := tokens ++ scan.tokens }

theorem Scan.pushAll_pushAll (front back : List Token) (scan : Scan) :
    (scan.pushAll back).pushAll front = scan.pushAll (front ++ back) := by
  simp [pushAll]

/-- The characters that separate tokens. -/
def separators : List Char :=
  [' ', '\t', '\x0c', '#', '\n', '\r', '\\']

variable {fuel offset : Nat} {stack : List (Char × Nat)} {fresh : Bool} {char : Char} {rest : Text}
  {kind : TokenKind} {length : Nat}

theorem scanFrom_token (visible : char ∉ separators) (noOpener : closer? char = none)
    (noCloser : isCloser char = false) (found : lexeme char (char :: rest) = .token kind length) :
    scanFrom (fuel + 1) offset stack fresh (char :: rest) =
      (scanFrom fuel (offset + length) stack false ((char :: rest).drop length)).push
        ⟨kind, ⟨offset, offset + length⟩, stack.length⟩ := by
  simp only [separators, List.mem_cons, List.not_mem_nil, or_false, not_or] at visible
  conv_lhs => unfold scanFrom
  simp [visible, found, noOpener, noCloser]

theorem scanFrom_opener {closing : Char} (visible : char ∉ separators)
    (opener : closer? char = some closing) (room : stack.length < bracketLimit)
    (found : lexeme char (char :: rest) = .token kind 1) :
    scanFrom (fuel + 1) offset stack fresh (char :: rest) =
      (scanFrom fuel (offset + 1) ((closing, offset) :: stack) false rest).push
        ⟨kind, ⟨offset, offset + 1⟩, stack.length + 1⟩ := by
  simp only [separators, List.mem_cons, List.not_mem_nil, or_false, not_or] at visible
  conv_lhs => unfold scanFrom
  simp [visible, found, opener, not_le.mpr room]

theorem scanFrom_closer {place : Nat} (visible : char ∉ separators) (noOpener : closer? char = none)
    (closes : isCloser char = true) (found : lexeme char (char :: rest) = .token kind 1) :
    scanFrom (fuel + 1) offset ((char, place) :: stack) fresh (char :: rest) =
      (scanFrom fuel (offset + 1) stack false rest).push
        ⟨kind, ⟨offset, offset + 1⟩, stack.length⟩ := by
  simp only [separators, List.mem_cons, List.not_mem_nil, or_false, not_or] at visible
  conv_lhs => unfold scanFrom
  simp [visible, found, noOpener, closes]

/-- In front of a token it does not matter whether a line begins there. -/
theorem scanFrom_fresh (visible : char ∉ separators) :
    scanFrom (fuel + 1) offset stack fresh (char :: rest) =
      scanFrom (fuel + 1) offset stack false (char :: rest) := by
  simp only [separators, List.mem_cons, List.not_mem_nil, or_false, not_or] at visible
  unfold scanFrom
  simp [visible]

theorem scanFrom_blank (fuel offset : Nat) (stack : List (Char × Nat)) (rest : Text) :
    scanFrom (fuel + 1) offset stack false (' ' :: rest) =
      scanFrom fuel (offset + 1) stack false rest := by
  conv_lhs => unfold scanFrom
  simp

/-- A text is read as tokens of some kinds wherever it stands in front of an allowed text, if so
many more brackets may be opened. -/
def Scans (room : Nat) (allowed : Text → Prop) (text : Text) (kinds : List TokenKind) : Prop :=
  ∀ fuel offset stack rest, allowed rest → (text ++ rest).length < fuel →
    stack.length + room ≤ bracketLimit →
    ∃ tokens left, tokens.map Token.kind = kinds ∧ rest.length < left ∧
      scanFrom fuel offset stack false (text ++ rest) =
        (scanFrom left (offset + text.length) stack false rest).pushAll tokens

namespace Scans

variable {room more : Nat} {allowed behind : Text → Prop} {text other : Text}
  {kinds others : List TokenKind}

theorem mono (reads : Scans room allowed text kinds) (fits : room ≤ more)
    (sub : ∀ rest, behind rest → allowed rest) : Scans more behind text kinds :=
  fun fuel offset stack rest holds enough free =>
    reads fuel offset stack rest (sub rest holds) enough (by omega)

theorem nil (room : Nat) (allowed : Text → Prop) : Scans room allowed [] [] :=
  fun fuel offset stack rest _ enough _ => ⟨[], fuel, rfl, by simpa using enough, by
    simp [Scan.pushAll]⟩

/-- Texts are joined where the second one is an allowed continuation of the first one. -/
theorem append (first : Scans room allowed text kinds) (second : Scans room behind other others)
    (joins : ∀ rest, behind rest → allowed (other ++ rest)) :
    Scans room behind (text ++ other) (kinds ++ others) := by
  intro fuel offset stack rest holds enough free
  rw [List.append_assoc] at enough ⊢
  rcases first fuel offset stack _ (joins rest holds) enough free with
    ⟨tokens, left, spelled, enough, scanned⟩
  rcases second left _ stack rest holds enough free with
    ⟨more, left, spelledMore, enough, rescanned⟩
  refine ⟨tokens ++ more, left, ?_, enough, ?_⟩
  · rw [List.map_append, spelled, spelledMore]
  · rw [scanned, rescanned, Scan.pushAll_pushAll, List.length_append, Nat.add_assoc]

theorem blank (room : Nat) : Scans room (fun _ => True) [' '] [] := by
  intro fuel offset stack rest _ enough _
  cases fuel with
  | zero => simp at enough
  | succ fuel => exact ⟨[], fuel, rfl, by simpa using enough, scanFrom_blank fuel offset stack rest⟩

/-- A text that is one token and no bracket. -/
theorem single {kind : TokenKind} (room : Nat)
    (reads : ∀ rest, allowed rest → ∃ char others, text = char :: others ∧ char ∉ separators ∧
      closer? char = none ∧ isCloser char = false ∧
      lexeme char (text ++ rest) = .token kind text.length) :
    Scans room allowed text [kind] := by
  intro fuel offset stack rest holds enough _
  rcases reads rest holds with ⟨char, others, spelled, visible, noOpener, noCloser, found⟩
  cases fuel with
  | zero => simp at enough
  | succ fuel =>
    refine ⟨[⟨kind, ⟨offset, offset + text.length⟩, stack.length⟩], fuel, rfl, ?_, ?_⟩
    · rw [spelled, List.cons_append, List.length_cons, List.length_append] at enough
      omega
    · have whole : text ++ rest = char :: (others ++ rest) := by rw [spelled, List.cons_append]
      rw [whole] at found ⊢
      rw [scanFrom_token visible noOpener noCloser found, ← whole, List.drop_left]
      rfl

theorem comma (room : Nat) : Scans room (fun _ => True) [','] [.mark [',']] :=
  single room fun rest _ => ⟨',', [], rfl, by decide, rfl, rfl, lexeme_bracket (by decide) rest⟩

/-- What stands between matching brackets may be followed by anything. -/
theorem bracketed {opening closing : Char}
    (pair : (opening, closing) ∈ [('(', ')'), ('[', ']')]) (inner : Scans room allowed text kinds)
    (closes : ∀ rest, allowed (closing :: rest)) :
    Scans (room + 1) (fun _ => True) (opening :: text ++ [closing])
      (.mark [opening] :: kinds ++ [.mark [closing]]) := by
  have facts : opening ∉ separators ∧ closing ∉ separators ∧ closer? opening = some closing ∧
      closer? closing = none ∧ isCloser closing = true ∧ opening ∈ ['(', ')', '[', ']', ','] ∧
      closing ∈ ['(', ')', '[', ']', ','] := by
    simp only [List.mem_cons, Prod.mk.injEq, List.not_mem_nil, or_false] at pair
    rcases pair with ⟨rfl, rfl⟩ | ⟨rfl, rfl⟩ <;> decide
  rcases facts with ⟨visible, visible', opener, noOpener, closer, bracket, bracket'⟩
  intro fuel offset stack rest _ enough free
  have whole : opening :: text ++ [closing] ++ rest = opening :: (text ++ closing :: rest) := by
    simp
  rw [whole] at enough ⊢
  cases fuel with
  | zero => simp at enough
  | succ fuel =>
    rw [List.length_cons, Nat.add_lt_add_iff_right] at enough
    rcases inner fuel (offset + 1) ((closing, offset) :: stack) (closing :: rest)
      (closes rest) enough
      (by rw [List.length_cons]; omega) with ⟨tokens, left, spelled, enough, scanned⟩
    cases left with
    | zero => simp at enough
    | succ left =>
      have length : offset + (opening :: text ++ [closing]).length =
          offset + 1 + text.length + 1 := by
        simp
        omega
      let inside := offset + 1 + text.length
      refine ⟨⟨.mark [opening], ⟨offset, offset + 1⟩, stack.length + 1⟩ :: tokens ++
        [⟨.mark [closing], ⟨inside, inside + 1⟩, stack.length⟩], left,
          by simp [spelled], by simpa using enough, ?_⟩
      rw [scanFrom_opener visible opener (by omega) (lexeme_bracket bracket _), scanned,
        scanFrom_closer visible' noOpener closer (lexeme_bracket bracket' _), length]
      simp [Scan.push, Scan.pushAll, inside]

/-- A text that is read up to its end is read as its tokens, and nothing else. -/
theorem scan_eq (reads : Scans room allowed text kinds) (ends : allowed [])
    (few : room ≤ bracketLimit) (visible : ∀ char ∈ text.head?, char ∉ separators) :
    ∃ tokens last, scan text = ⟨tokens ++ [last], none, none⟩ ∧ tokens.map Token.kind = kinds ∧
      last.kind = .finish := by
  have fresh : scan text = scanFrom (text.length + 1) 0 [] false text := by
    cases text with
    | nil => rfl
    | cons char rest => exact scanFrom_fresh (visible char rfl)
  rcases reads (text.length + 1) 0 [] [] ends (by simp) (by simpa using few) with
    ⟨tokens, left, spelled, enough, scanned⟩
  rw [List.append_nil, ← fresh] at scanned
  cases left with
  | zero => simp at enough
  | succ left =>
    let stop := 0 + text.length
    exact ⟨tokens, ⟨.finish, ⟨stop, stop⟩, 0⟩, scanned, spelled, rfl⟩

end Scans

/-- The tokens of pieces in a row. -/
def kindsOf (pieces : List Piece) : List TokenKind :=
  pieces.filterMap Piece.kind?

/-- Pieces are read as their tokens wherever they stand in front of an allowed text, if so many more
brackets may be opened. -/
def Lexes (room : Nat) (allowed : Text → Prop) (pieces : List Piece) : Prop :=
  ∀ fuel offset stack rest, allowed rest → (pieces.flatMap Piece.text ++ rest).length < fuel →
    stack.length + room ≤ bracketLimit →
    ∃ tokens left, tokens.map Token.kind = kindsOf pieces ∧ rest.length < left ∧
      scanFrom fuel offset stack false (pieces.flatMap Piece.text ++ rest) =
        (scanFrom left (offset + (pieces.flatMap Piece.text).length) stack false
          rest).pushAll tokens

namespace Lexes

variable {room more : Nat} {allowed behind : Text → Prop} {front back pieces : List Piece}

theorem scans (reads : Lexes room allowed pieces) :
    Scans room allowed (pieces.flatMap Piece.text) (kindsOf pieces) :=
  reads

theorem of_scans {text : Text} {kinds : List TokenKind} (reads : Scans room allowed text kinds)
    (written : pieces.flatMap Piece.text = text) (spelled : kindsOf pieces = kinds) :
    Lexes room allowed pieces := by
  subst written spelled
  exact reads

theorem mono (reads : Lexes room allowed pieces) (fits : room ≤ more)
    (sub : ∀ rest, behind rest → allowed rest) : Lexes more behind pieces :=
  reads.scans.mono fits sub

theorem nil (room : Nat) (allowed : Text → Prop) : Lexes room allowed [] :=
  Scans.nil room allowed

/-- Rows are joined where the second one is an allowed continuation of the first one. -/
theorem append (first : Lexes room allowed front) (second : Lexes room behind back)
    (joins : ∀ rest, behind rest → allowed (back.flatMap Piece.text ++ rest)) :
    Lexes room behind (front ++ back) :=
  of_scans (first.scans.append second.scans joins) List.flatMap_append (by simp [kindsOf])

theorem blank (room : Nat) : Lexes room (fun _ => True) [.blank] :=
  Scans.blank room

/-- A piece that is one token and no bracket. -/
theorem single {piece : Piece} {kind : TokenKind} (room : Nat) (one : piece.kind? = some kind)
    (reads : ∀ rest, allowed rest → ∃ char others, piece.text = char :: others ∧
      char ∉ separators ∧ closer? char = none ∧ isCloser char = false ∧
      lexeme char (piece.text ++ rest) = .token kind piece.text.length) :
    Lexes room allowed [piece] :=
  of_scans (Scans.single room reads) (List.flatMap_singleton ..) (by simp [kindsOf, one])

/-- Pieces between matching brackets may be followed by anything. -/
theorem bracketed {opening closing : Char}
    (pair : (opening, closing) ∈ [('(', ')'), ('[', ']')]) (inner : Lexes room allowed pieces)
    (closes : ∀ rest, allowed (closing :: rest)) :
    Lexes (room + 1) (fun _ => True) (.mark [opening] :: pieces ++ [.mark [closing]]) :=
  of_scans (inner.scans.bracketed pair closes) (by simp [Piece.text])
    (by simp [kindsOf, Piece.kind?])

end Lexes

end Lexer

namespace Expr

open Lexer

theorem depth_item_lt {items : List Expr} {item : Expr} (member : item ∈ items) :
    item.depth < (Expr.list items).depth := by
  rw [depth]
  induction items with
  | nil => cases member
  | cons first others ih =>
    rw [itemDepth]
    rcases List.mem_cons.mp member with rfl | behind
    · omega
    · have deeper := ih behind
      omega

/-- The characters that may follow an expression. -/
def follows (expression : Expr) : List Char :=
  if 5 ≤ expression.binding then delimiters ++ continuations else delimiters

theorem delimiters_subset_follows (expression : Expr) : delimiters ⊆ expression.follows := by
  unfold follows
  split
  · exact List.subset_append_left _ _
  · exact List.Subset.refl _

theorem lexes_spaced (room : Nat) {symbol : Text} (known : symbol ∈ operators) :
    Lexes room (fun _ => True) (spaced symbol) := by
  have mark : Lexes room (fun rest => ∃ behind, rest = ' ' :: behind) [.mark symbol] := by
    apply Lexes.single room rfl
    rintro rest ⟨behind, rfl⟩
    rcases lexeme_operator known behind with ⟨char, others, text, found⟩
    have plain : ∀ symbol ∈ operators, ∀ char ∈ symbol.head?, char ∉ separators ∧
      closer? char = none ∧
        isCloser char = false := by
      simp [operators, separators, closer?, isCloser]
    rcases plain symbol known char (by rw [text]; rfl) with ⟨visible, noOpener, noCloser⟩
    exact ⟨char, others, text, visible, noOpener, noCloser, found⟩
  have behind := mark.append (Lexes.blank room) fun rest _ => ⟨rest, rfl⟩
  exact (Lexes.blank room).append behind fun _ _ => trivial

/-- Letters, digits and underscores neither separate tokens nor are they brackets. -/
theorem plain_of_isWord {char : Char} (word : char.isAlphanum = true ∨ char = '_') :
    char ∉ separators ∧ closer? char = none ∧ isCloser char = false := by
  have other (mark : Char) (special : mark ∈ separators ++ ['(', '[', '\x7b', ')', ']', '\x7d']) :
      char ≠ mark := by
    rintro rfl
    have noWord : ∀ mark ∈ separators ++ ['(', '[', '\x7b', ')', ']', '\x7d'],
        ¬(mark.isAlphanum = true ∨ mark = '_') := by simp [separators]
    exact noWord char special word
  refine ⟨fun member => other _ (List.mem_append_left _ member) rfl, ?_, ?_⟩
  · unfold closer?
    split
    · exact absurd rfl (other _ (by decide))
    · exact absurd rfl (other _ (by decide))
    · exact absurd rfl (other _ (by decide))
    · rfl
  · simp [isCloser, other ')' (by decide), other ']' (by decide), other '\x7d' (by decide)]

theorem lexes_constant (room : Nat) (constant : Constant) :
    Lexes room (Before delimiters) [.numeral constant] := by
  apply Lexes.single room rfl
  intro rest before
  rcases lexeme_constant constant before with ⟨char, others, text, digit, found⟩
  have plain := plain_of_isWord (.inl (isAlphanum_of_isDigit digit))
  exact ⟨char, others, text, plain.1, plain.2.1, plain.2.2, found⟩

theorem lexes_identifier (room : Nat) (identifier : Identifier) :
    Lexes room (Before (delimiters ++ continuations)) [.name identifier] := by
  apply Lexes.single room rfl
  intro rest before
  have plain := plain_of_isWord (Identifier.isWord_of_mem identifier.first_mem)
  exact ⟨identifier.first, identifier.rest, rfl, plain.1, plain.2.1, plain.2.2,
    lexeme_identifier identifier before⟩

/-- A sign is a mark in front of anything that does not make a longer mark of it. -/
theorem scans_sign (room : Nat) (sign : Sign) :
    Scans room (fun rest => ∃ next others, rest = next :: others ∧ next ≠ '=' ∧ next ≠ '>')
      sign.symbol [.mark sign.symbol] := by
  apply Scans.single
  rintro rest ⟨next, others, rfl, apart⟩
  rcases lexeme_sign sign apart others with ⟨char, symbol, found⟩
  have plain : char ∉ separators ∧ closer? char = none ∧ isCloser char = false := by
    cases sign <;> cases symbol <;> decide
  refine ⟨char, [], symbol, plain.1, plain.2.1, plain.2.2, ?_⟩
  simpa [symbol] using found

theorem lexes_sign (room : Nat) (sign : Sign) :
    Lexes room (fun rest => ∃ char others, rest = char :: others ∧ isSolid char = true)
      [.mark sign.symbol] := by
  refine (Lexes.of_scans (scans_sign room sign) (List.flatMap_singleton ..) rfl).mono le_rfl ?_
  rintro rest ⟨next, others, rfl, solid⟩
  refine ⟨next, others, rfl, ?_, ?_⟩ <;> rintro rfl <;> exact absurd solid (by decide)

/-- An operand is read like its expression, in parentheses or not. -/
theorem lexes_grouped {room least : Nat} {operand : Expr} {allowed : List Char}
    (reads : Lexes room (Before operand.follows) operand.pieces)
    (fits : least ≤ operand.binding → allowed ⊆ operand.follows) :
    Lexes (room + 1) (Before allowed) (grouped least operand operand.pieces) := by
  unfold grouped
  split
  · have closes (rest : Text) : Before operand.follows (')' :: rest) :=
      before_cons.mpr (operand.delimiters_subset_follows (by decide))
    exact (reads.bracketed (by decide) closes).mono le_rfl fun _ _ => trivial
  · next bound =>
    exact reads.mono (Nat.le_succ room) fun rest before => before.mono (fits (not_lt.mp bound))

/-- An operand begins with a solid character. -/
theorem grouped_head (least : Nat) (operand : Expr) (rest : Text) :
    ∃ char others, (grouped least operand operand.pieces).flatMap Piece.text ++ rest =
      char :: others ∧
      isSolid char = true := by
  unfold grouped
  split
  · exact ⟨'(', _, rfl, by decide⟩
  · rcases operand.print_head with ⟨char, others, text, solid⟩
    rw [print] at text
    exact ⟨char, others ++ rest, by rw [text, List.cons_append], solid⟩

theorem lexes_between {left right : Expr} {symbol : Text} (known : symbol ∈ operators)
    (readsLeft : Lexes (left.depth + 1) (Before left.follows) left.pieces)
    (readsRight : Lexes (right.depth + 1) (Before right.follows) right.pieces)
    (first second : Nat) :
    Lexes (max left.depth right.depth + 2) (Before delimiters)
      (grouped first left left.pieces ++ spaced symbol ++ grouped second right right.pieces) := by
  have front : Lexes (max left.depth right.depth + 2) (Before delimiters)
      (grouped first left left.pieces) :=
    (lexes_grouped readsLeft fun _ => left.delimiters_subset_follows).mono (by omega) fun _ => id
  have back : Lexes (max left.depth right.depth + 2) (Before delimiters)
      (grouped second right right.pieces) :=
    (lexes_grouped readsRight fun _ => right.delimiters_subset_follows).mono (by omega) fun _ => id
  have joined := front.append (lexes_spaced _ known) fun rest _ => before_cons.mpr (by decide)
  exact joined.append back fun _ _ => trivial

/-- An operand that something is taken of may be followed by what goes on with it. -/
theorem lexes_target {target : Expr}
    (reads : Lexes (target.depth + 1) (Before target.follows) target.pieces) :
    Lexes (target.depth + 2) (Before (delimiters ++ continuations))
      (grouped 5 target target.pieces) :=
  lexes_grouped reads fun bound => by simp [follows, bound]

/-- The items behind the first one are read up to the end of a list. -/
theorem lexes_morePieces {room : Nat} {others : List Expr}
    (each : ∀ item ∈ others, Lexes room (Before item.follows) item.pieces) :
    Lexes room (Before [']']) (morePieces others) ∧
      ∀ rest, Before [']'] rest →
        Before delimiters ((morePieces others).flatMap Piece.text ++ rest) := by
  induction others with
  | nil => exact ⟨Lexes.nil _ _, fun rest before => before.mono (by decide)⟩
  | cons item others ih =>
    rcases ih fun other member => each other (List.mem_cons_of_mem _ member) with ⟨reads, follow⟩
    have comma : Lexes room (fun _ => True) [.mark [',']] :=
      Lexes.of_scans (Scans.comma room) rfl rfl
    have here := (each item List.mem_cons_self).append reads fun rest before =>
      (follow rest before).mono item.delimiters_subset_follows
    have separated := comma.append (Lexes.blank room) fun _ _ => trivial
    exact ⟨separated.append here fun _ _ => trivial, fun rest _ => before_cons.mpr (by decide)⟩

/-- Wherever it may stand, an expression is read as the tokens of its pieces. -/
theorem lexes (expression : Expr) :
    Lexes (expression.depth + 1) (Before expression.follows) expression.pieces := by
  induction expression with
  | numeral constant => exact lexes_constant 1 constant
  | name identifier => exact lexes_identifier 1 identifier
  | list items ih =>
    cases items with
    | nil =>
      have inner : Lexes 0 (Before [']']) [] := Lexes.nil _ _
      exact (inner.bracketed (by decide) fun _ => before_cons.mpr (by decide)).mono le_rfl
        fun _ _ => trivial
    | cons first others =>
      have deep : ∀ item ∈ first :: others, Lexes (Expr.list (first :: others)).depth
          (Before item.follows) item.pieces := fun item member =>
        (ih item member).mono (depth_item_lt member) fun _ => id
      rcases lexes_morePieces fun item member => deep item (List.mem_cons_of_mem _ member) with
        ⟨reads, follow⟩
      have inner := (deep first List.mem_cons_self).append reads fun rest before =>
        (follow rest before).mono first.delimiters_subset_follows
      exact (inner.bracketed (by decide) fun _ => before_cons.mpr (by decide)).mono le_rfl
        fun _ _ => trivial
  | unary sign operand ih =>
    have rest : Lexes (operand.depth + 2) (Before delimiters) (grouped 3 operand operand.pieces) :=
      lexes_grouped ih fun _ => operand.delimiters_subset_follows
    exact (lexes_sign _ sign).append rest fun rest _ => grouped_head 3 operand rest
  | binary operation left right ihLeft ihRight =>
    have loose : (Expr.binary operation left right).follows = delimiters := by
      cases operation <;> rfl
    rw [loose]
    exact lexes_between operation.symbol_mem ihLeft ihRight _ _
  | comparison comparator left right ihLeft ihRight =>
    exact lexes_between (symbol_mem comparator) ihLeft ihRight _ _
  | subscript target index ihTarget ihIndex =>
    have front : Lexes (max target.depth index.depth + 2) (Before (delimiters ++ continuations))
        (grouped 5 target target.pieces) := (lexes_target ihTarget).mono (by omega) fun _ => id
    have place : Lexes (max target.depth index.depth + 2) (fun _ => True)
        (.mark ['['] :: index.pieces ++ [.mark [']']]) :=
      (ihIndex.bracketed (by decide) fun _ =>
        before_cons.mpr (index.delimiters_subset_follows (by decide))).mono (by omega) fun _ => id
    have whole := front.append place fun rest _ => before_cons.mpr (by decide)
    simpa [pieces, depth] using whole.mono le_rfl fun _ _ => trivial
  | length target ih =>
    have point : Lexes (target.depth + 2) (fun rest => ∃ behind, rest = 'l' :: behind)
      [.mark ['.']] := by
      apply Lexes.single _ rfl
      rintro rest ⟨behind, rfl⟩
      exact ⟨'.', [], rfl, by decide, rfl, rfl, lexeme_point behind⟩
    have property := point.append (lexes_identifier _ .length) fun rest _ => ⟨_, rfl⟩
    exact (lexes_target ih).append property fun rest _ => before_cons.mpr (by decide)

theorem visible_of_print (expression : Expr) :
    ∀ char ∈ expression.print.head?, char ∉ separators := by
  rcases expression.print_head with ⟨char, rest, text, solid⟩
  rw [text]
  rintro _ ⟨⟩ member
  have hidden : ∀ char ∈ separators, isSolid char = false := by simp [separators, isSolid]
  rw [hidden char member] at solid
  exact absurd solid (by decide)

end Expr

end StepScript

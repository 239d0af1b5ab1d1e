import StepScript.Proofs.Expression.Lexing

/-!
# Tokens in front of a bracket

A token at the end of a text is the same token when a bracket, a comma or a blank stands behind the
text: none of these characters lengthens a token.  So a text that is one line of tokens by itself is
the same tokens inside of brackets.
-/

namespace StepScript

/-- The marks of expressions that can be evaluated. -/
def plainMarks : List Text :=
  ["(", ")", "[", "]", ",", ".", "+", "-", "*", "/", "%", "<", "<=", ">", ">=", "==", "!="].map
    String.toList

/-- Whether expressions that can be evaluated are made of such tokens. -/
def TokenKind.isPlain : TokenKind → Bool
  | .name _ | .integer _ | .double _ => true
  | .mark symbol => plainMarks.contains symbol
  | _ => false

namespace Lexer

open Token

/-- Characters that lengthen no token in front of them. -/
def enders : List Char :=
  [')', ']', ',', ' ', '\t', '\n', '\r']

/-- Nothing that is written in front of the character is lengthened by it. -/
structure EndsToken (char : Char) : Prop extends EndsNumber char where
  isAlpha : char.isAlpha = false
  ne_sign : char ≠ '+' ∧ char ≠ '-'
  ne_quote : char ≠ '"' ∧ char ≠ '\''
  unmarked : ∀ mark ∈ tripleMarks ++ doubleMarks, char ∉ mark

theorem endsToken_of_mem {char : Char} (member : char ∈ enders) : EndsToken char := by
  simp only [enders, List.mem_cons, List.not_mem_nil, or_false] at member
  rcases member with rfl | rfl | rfl | rfl | rfl | rfl | rfl <;>
    exact ⟨by constructor <;> decide, by decide, by decide, by decide, by decide⟩

variable {char : Char} {text behind : Text}

/-! ## Numbers -/

theorem digitRun_append_ender {accepts : Char → Bool} (other : accepts char = false)
    (plain : char ≠ '_') (text behind : Text) :
    digitRun accepts (text ++ char :: behind) = digitRun accepts text := by
  induction text with
  | nil => simp [digitRun, other, plain]
  | cons first text ih =>
    cases text with
    | nil => simp [digitRun, other, plain]
    | cons second text =>
      simp only [List.cons_append] at ih ⊢
      rw [digitRun.eq_def, digitRun.eq_def accepts (first :: second :: text)]
      simp only [ih]

theorem digitRun_length_le {accepts : Char → Bool} {digits : Text} {length : Nat}
    (run : digitRun accepts text = .ok (digits, length)) : length ≤ text.length := by
  induction text generalizing digits length with
  | nil =>
    cases run
    exact le_rfl
  | cons first text ih =>
    rw [digitRun.eq_def] at run
    dsimp only at run
    split at run
    · split at run
      · rename_i found
        cases run
        exact Nat.succ_le_succ (ih found)
      · cases run
    · split at run
      · split at run
        · split at run
          · split at run
            · rename_i found
              cases run
              exact Nat.succ_le_succ (ih found)
            · cases run
          · cases run
        · cases run
      · cases run
        exact Nat.zero_le _

theorem digitRun_length_pos {accepts : Char → Bool} {first : Char} {digits : Text} {length : Nat}
    (digit : accepts first = true) (run : digitRun accepts (first :: text) = .ok (digits, length)) :
    0 < length := by
  rw [digitRun.eq_def] at run
  simp only [digit, if_true] at run
  split at run
  · cases run
    exact Nat.succ_pos _
  · cases run

theorem after?_append {word : Text} (absent : char ∉ word) (text behind : Text) :
    Text.after? word (text ++ char :: behind) =
      (Text.after? word text).map (· ++ char :: behind) := by
  induction word generalizing text with
  | nil => rfl
  | cons letter word ih =>
    have other : letter ≠ char := fun same => absent (same ▸ List.mem_cons_self)
    cases text with
    | nil => simp [Text.after?, other]
    | cons first text =>
      rw [List.cons_append, Text.after?, Text.after?]
      split
      · exact ih (fun member => absent (List.mem_cons_of_mem _ member)) text
      · rfl

/-- Whether a word that stands at the front of a text ends there; `rest` is what follows it. -/
def wordEnds (rest : Option Text) : Bool :=
  match rest with
  | some (char :: _) => !continuesName char
  | some [] => true
  | none => false

theorem wordMayFollow_eq (text : Text) :
    wordMayFollow text =
      ((["and", "else", "for", "or", "not"].any fun word =>
          wordEnds (Text.after? word.toList text)) ||
        ["if", "in", "is"].any fun word => (Text.after? word.toList text).isSome) :=
  rfl

section Ending

variable (ends : EndsToken char) (text behind : Text)

include ends

theorem wordMayFollow_append : wordMayFollow (text ++ char :: behind) = wordMayFollow text := by
  have absent (word : String) (letters : word.toList.all Char.isAlpha = true) :
      char ∉ word.toList := by
    intro inside
    exact absurd (List.all_eq_true.mp letters char inside) (by simp [ends.isAlpha])
  have front (word : String) (letters : word.toList.all Char.isAlpha = true) :
      (Text.after? word.toList (text ++ char :: behind)).isSome =
        (Text.after? word.toList text).isSome := by
    rw [after?_append (absent word letters), Option.isSome_map]
  have whole (word : String) (letters : word.toList.all Char.isAlpha = true) :
      wordEnds (Text.after? word.toList (text ++ char :: behind)) =
        wordEnds (Text.after? word.toList text) := by
    rw [after?_append (absent word letters)]
    cases Text.after? word.toList text with
    | none => rfl
    | some rest => cases rest <;> simp [wordEnds, ends.continuesName]
  simp only [wordMayFollow_eq, List.any_cons, List.any_nil]
  rw [whole "and" rfl, whole "else" rfl, whole "for" rfl, whole "or" rfl, whole "not" rfl,
    front "if" rfl, front "in" rfl, front "is" rfl]

theorem endNumber_append (kind : TokenKind) (length : Nat) :
    endNumber kind length (text ++ char :: behind) = endNumber kind length text := by
  cases text with
  | nil => simp [endNumber, ends.continuesName]
  | cons first text =>
    have follows := wordMayFollow_append ends (first :: text) behind
    rw [List.cons_append] at follows ⊢
    rw [endNumber, endNumber, follows]

theorem takeSign_append :
    Numeral.takeSign (text ++ char :: behind) =
      ((Numeral.takeSign text).1, (Numeral.takeSign text).2 ++ char :: behind) := by
  cases text with
  | nil => simp [Numeral.takeSign, ends.ne_sign]
  | cons first text =>
    by_cases minus : first = '-'
    · simp [Numeral.takeSign, minus]
    · by_cases plus : first = '+' <;> simp [Numeral.takeSign, minus, plus]

theorem exponentPart_append :
    exponentPart (text ++ char :: behind) = exponentPart text := by
  cases text with
  | nil => simp [exponentPart, ends.ne_exponent]
  | cons mark rest =>
    have signs : ∀ unsigned : Text, (rest ++ char :: behind).length -
        (unsigned ++ char :: behind).length = rest.length - unsigned.length := by
      intro unsigned
      simp only [List.length_append]
      omega
    simp only [List.cons_append, exponentPart, takeSign_append ends, signs]
    cases (Numeral.takeSign rest).2 with
    | nil => simp [ends.isDigit]
    | cons first unsigned =>
      have run := digitRun_append_ender ends.isDigit ends.ne_underscore (first :: unsigned) behind
      simp only [List.cons_append] at run ⊢
      rw [run]

end Ending

theorem takeSign_length_le (text : Text) : (Numeral.takeSign text).2.length ≤ text.length := by
  unfold Numeral.takeSign
  split
  · exact Nat.le_succ _
  · exact Nat.le_succ _
  · exact le_rfl

theorem exponentPart_length_le {value : Int} {length : Nat}
    (read : exponentPart text = .ok (some (value, length))) : length ≤ text.length := by
  cases text with
  | nil => cases read
  | cons mark rest =>
    have shorter := takeSign_length_le rest
    simp only [exponentPart] at read
    generalize (Numeral.takeSign rest).2 = unsigned at read shorter
    cases unsigned with
    | nil =>
      dsimp only at read
      split at read
      · split at read <;> cases read
      · cases read
    | cons first unsigned =>
      dsimp only at read
      split at read
      · split at read
        · split at read
          · rename_i run
            cases read
            have inside := digitRun_length_le run
            simp only [List.length_cons] at inside shorter ⊢
            omega
          · cases read
        · split at read <;> cases read
      · cases read

/-! ## Decimal numbers -/

/-- The part of a decimal number from its point on: whether there is a point, and the digits behind
it. -/
def fractionPart (text : Text) : Bool × Except Nat (Text × Nat) :=
  match text with
  | '.' :: places =>
    match places with
    | char :: _ =>
      if char.isDigit then (true, digitRun Char.isDigit places) else (true, .ok ([], 0))
    | [] => (true, .ok ([], 0))
  | _ => (false, .ok ([], 0))

/-- What a decimal number is in front of `rest`, once its parts are known. -/
def decimalEnd (whole fraction : Text) (pointed : Bool) (exponent : Option Int) (length : Nat)
    (rest : Text) : Lexeme :=
  let plain := !pointed && exponent.isNone
  match rest with
  | 'j' :: behind | 'J' :: behind => endNumber .imaginary (length + 1) behind
  | _ =>
    let marked := rest.head? == some 'e' || rest.head? == some 'E'
    if plain && !marked && whole.head? == some '0' && whole.any (· != '0') then .leadingZeros
    else if plain then
      let kind :=
        if digitLimit < whole.length then .longInteger
        else .integer (Text.digitsValue whole)
      endNumber kind length rest
    else
      let value := (Numeral.mk false whole fraction (exponent.getD 0)).toFloat
      endNumber (.double value) length rest

/-- What a decimal number is once its digits on both sides of the point are known. -/
def decimalFrom (text whole fraction : Text) (pointed : Bool) (mantissaLength : Nat) : Lexeme :=
  match exponentPart (text.drop mantissaLength) with
  | .error offset => .invalid (mantissaLength + offset)
  | .ok exponent =>
    let length := mantissaLength + (exponent.map Prod.snd).getD 0
    decimalEnd whole fraction pointed (exponent.map Prod.fst) length (text.drop length)

theorem decimalNumber_eq (text : Text) :
    decimalNumber text =
      match digitRun Char.isDigit text with
      | .error offset => .invalid offset
      | .ok (whole, wholeLength) =>
        match fractionPart (text.drop wholeLength) with
        | (_, .error offset) => .invalid (wholeLength + 1 + offset)
        | (pointed, .ok (fraction, fractionLength)) =>
          decimalFrom text whole fraction pointed
            (wholeLength + if pointed then 1 + fractionLength else 0) := by
  unfold decimalNumber decimalFrom decimalEnd
  simp only [Option.isNone_map]
  cases digitRun Char.isDigit text with
  | error offset => rfl
  | ok found =>
    rcases found with ⟨whole, wholeLength⟩
    dsimp only
    generalize text.drop wholeLength = behind
    unfold fractionPart
    rcases behind with _ | ⟨point, places⟩
    · rfl
    · by_cases pointed : point = '.'
      · subst pointed
        cases places with
        | nil => rfl
        | cons place places =>
          cases digit : place.isDigit with
          | false =>
            simp only [digit, Bool.false_eq_true, if_false]
            rfl
          | true =>
            simp only [digit, if_true]
            cases digitRun Char.isDigit (place :: places) with
            | error offset => rfl
            | ok run => rcases run with ⟨fraction, fractionLength⟩; rfl
      · simp only [pointed, List.cons.injEq, false_and, imp_false, not_false_eq_true, implies_true]
        rfl

theorem fractionPart_length_le {pointed : Bool} {fraction : Text} {length : Nat}
    (read : fractionPart text = (pointed, .ok (fraction, length))) :
    (if pointed then 1 + length else 0) ≤ text.length := by
  unfold fractionPart at read
  split at read
  · split at read
    · split at read
      · have run := (Prod.mk.inj read).2
        have inside := digitRun_length_le run
        split <;> simp only [List.length_cons] at inside ⊢ <;> omega
      · cases read
        simp
    · cases read
      simp
  · cases read
    simp

section Ending

variable (ends : EndsToken char) (behind : Text)

include ends

theorem fractionPart_append (text : Text) :
    fractionPart (text ++ char :: behind) = fractionPart text := by
  rcases text with _ | ⟨point, places⟩
  · simp [fractionPart, ends.ne_point]
  · by_cases pointed : point = '.'
    · subst pointed
      cases places with
      | nil => simp [fractionPart, ends.isDigit]
      | cons place places =>
        have run := digitRun_append_ender ends.isDigit ends.ne_underscore (place :: places) behind
        simp only [List.cons_append] at run ⊢
        simp only [fractionPart, run]
    · simp [fractionPart, pointed]

theorem decimalEnd_append (whole fraction : Text) (pointed : Bool) (exponent : Option Int)
    (length : Nat) (rest : Text) :
    decimalEnd whole fraction pointed exponent length (rest ++ char :: behind) =
      decimalEnd whole fraction pointed exponent length rest := by
  have same (kind : TokenKind) (length : Nat) (rest : Text) :=
    endNumber_append ends rest behind kind length
  rcases rest with _ | ⟨next, rest⟩
  · have noExponent := not_or.mp ends.ne_exponent
    have plain (kind : TokenKind) :
        endNumber kind length (char :: behind) = endNumber kind length [] := same kind length []
    simp [decimalEnd, ends.ne_unit, noExponent, plain]
  · have continued (kind : TokenKind) :
        endNumber kind length (next :: (rest ++ char :: behind)) =
          endNumber kind length (next :: rest) := same kind length (next :: rest)
    by_cases unit : next = 'j' ∨ next = 'J'
    · rcases unit with rfl | rfl <;> simp only [List.cons_append, decimalEnd, same]
    · simp [decimalEnd, not_or.mp unit, continued]

theorem decimalFrom_append {mantissaLength : Nat} (inside : mantissaLength ≤ text.length)
    (whole fraction : Text) (pointed : Bool) :
    decimalFrom (text ++ char :: behind) whole fraction pointed mantissaLength =
      decimalFrom text whole fraction pointed mantissaLength := by
  unfold decimalFrom
  rw [List.drop_append_of_le_length inside, exponentPart_append ends]
  cases read : exponentPart (text.drop mantissaLength) with
  | error offset => rfl
  | ok exponent =>
    have within : mantissaLength + (exponent.map Prod.snd).getD 0 ≤ text.length := by
      cases exponent with
      | none => exact inside
      | some found =>
        have short := exponentPart_length_le read
        rw [List.length_drop] at short
        simp only [Option.map_some, Option.getD_some]
        omega
    dsimp only
    rw [List.drop_append_of_le_length within]
    exact decimalEnd_append ends behind ..

theorem decimalNumber_append (text : Text) :
    decimalNumber (text ++ char :: behind) = decimalNumber text := by
  rw [decimalNumber_eq, decimalNumber_eq, digitRun_append_ender ends.isDigit ends.ne_underscore]
  cases run : digitRun Char.isDigit text with
  | error offset => rfl
  | ok found =>
    rcases found with ⟨whole, wholeLength⟩
    have inside := digitRun_length_le run
    dsimp only
    rw [List.drop_append_of_le_length inside, fractionPart_append ends]
    rcases read : fractionPart (text.drop wholeLength) with ⟨pointed, offset | ⟨fraction, length⟩⟩
    · rfl
    · have short := fractionPart_length_le read
      rw [List.length_drop] at short
      exact decimalFrom_append ends behind (by omega) whole fraction pointed

end Ending

/-! ## Lengths of numbers -/

theorem endNumber_token {kind found : TokenKind} {length count : Nat} {rest : Text}
    (read : endNumber kind length rest = .token found count) :
    found = kind ∧ count = length := by
  unfold endNumber at read
  split at read
  · split at read
    · cases read
    · exact (Lexeme.token.inj read).imp Eq.symm Eq.symm
  · exact (Lexeme.token.inj read).imp Eq.symm Eq.symm

theorem decimalEnd_length {whole fraction rest : Text} {pointed : Bool} {exponent : Option Int}
    {length count : Nat} {kind : TokenKind}
    (read : decimalEnd whole fraction pointed exponent length rest = .token kind count) :
    length ≤ count ∧ count ≤ length + rest.length := by
  unfold decimalEnd at read
  dsimp only at read
  split at read
  · rw [(endNumber_token read).2, List.length_cons]
    omega
  · rw [(endNumber_token read).2, List.length_cons]
    omega
  · split at read
    · cases read
    · split at read <;> rw [(endNumber_token read).2] <;> omega

theorem decimalFrom_length {whole fraction : Text} {pointed : Bool} {mantissaLength count : Nat}
    {kind : TokenKind} (inside : mantissaLength ≤ text.length)
    (read : decimalFrom text whole fraction pointed mantissaLength = .token kind count) :
    mantissaLength ≤ count ∧ count ≤ text.length := by
  unfold decimalFrom at read
  split at read
  · cases read
  · rename_i exponent found
    have bounds := decimalEnd_length read
    rw [List.length_drop] at bounds
    cases exponent with
    | none =>
      simp only [Option.map_none, Option.getD_none] at bounds
      omega
    | some value =>
      have short := exponentPart_length_le found
      rw [List.length_drop] at short
      simp only [Option.map_some, Option.getD_some] at bounds
      omega

theorem fractionPart_pointed (places : Text) : (fractionPart ('.' :: places)).1 = true := by
  rcases places with _ | ⟨place, places⟩
  · rfl
  · simp only [fractionPart]
    split <;> rfl

theorem decimalNumber_length {first : Char} {kind : TokenKind} {count : Nat}
    (opens : first.isDigit = true ∨ first = '.')
    (read : decimalNumber (first :: text) = .token kind count) :
    0 < count ∧ count ≤ (first :: text).length := by
  rw [decimalNumber_eq] at read
  split at read
  · cases read
  · rename_i whole wholeLength run
    have inside := digitRun_length_le run
    split at read
    · cases read
    · rename_i pointed fraction fractionLength rest
      have short := fractionPart_length_le rest
      rw [List.length_drop] at short
      have bounds := decimalFrom_length (by omega) read
      have digits : 0 < wholeLength + if pointed then 1 + fractionLength else 0 := by
        rcases opens with digit | rfl
        · have digits := digitRun_length_pos digit run
          omega
        · cases wholeLength with
          | succ => omega
          | zero =>
            have point : pointed = true := by
              have found := fractionPart_pointed text
              rwa [← List.drop_zero (l := '.' :: text), rest] at found
            simp [point]
      omega

/-! ## Tokens -/

/-- Whether there is a token, what it is and how long does not depend on what stands behind an
ender. -/
structure Keeps (reader : Text → Lexeme) (text : Text) : Prop where
  length_pos : ∀ {kind length}, reader text = .token kind length → 0 < length
  length_le : ∀ {kind length}, reader text = .token kind length → length ≤ text.length
  append_iff : ∀ {char}, EndsToken char → ∀ behind kind length,
    reader (text ++ char :: behind) = .token kind length ↔ reader text = .token kind length

theorem keeps_decimalNumber {first : Char} (opens : first.isDigit = true ∨ first = '.')
    (text : Text) : Keeps decimalNumber (first :: text) where
  length_pos read := (decimalNumber_length opens read).1
  length_le read := (decimalNumber_length opens read).2
  append_iff ends behind kind length := by rw [decimalNumber_append ends]

theorem radixNumber_length {base : Nat} {text : Text} (long : 2 ≤ text.length) {kind : TokenKind}
    {length : Nat} (read : radixNumber base text = .token kind length) :
    0 < length ∧ length ≤ text.length := by
  unfold radixNumber at read
  dsimp only at read
  split at read
  · split at read
    · split at read <;> cases read
    · cases read
  · split at read
    · split at read <;> cases read
    · cases read
  · rename_i run
    have inside := digitRun_length_le run
    rw [List.length_drop] at inside
    split at read
    · split at read
      · cases read
      · rw [(endNumber_token read).2]
        omega
    · rw [← (Lexeme.token.inj read).2]
      omega

/-- A number that is refused is refused at a place that need not be the same. -/
theorem blame_ne_token (text : Text) (offset : Nat) (kind : TokenKind) (length : Nat) :
    (match text[offset + 1]? with
      | some char => if char.isDigit then Lexeme.invalid (offset + 1) else .invalid offset
      | none => .invalid offset) ≠ .token kind length := by
  split
  · split <;> simp
  · simp

theorem keeps_radixNumber (base : Nat) {text : Text} (long : 2 ≤ text.length) :
    Keeps (radixNumber base) text where
  length_pos read := (radixNumber_length long read).1
  length_le read := (radixNumber_length long read).2
  append_iff := by
    intro char ends behind kind length
    let accepts (char : Char) : Bool :=
      (char.isDigit || (base == 16 && char.isAlpha)) && digitValue char < base
    have other : accepts char = false := by simp [accepts, ends.isDigit, ends.isAlpha]
    unfold radixNumber
    dsimp only
    rw [List.drop_append_of_le_length long, digitRun_append_ender other ends.ne_underscore]
    rcases run : digitRun accepts (text.drop 2) with offset | ⟨digits, count⟩
    · exact iff_of_false (blame_ne_token _ _ _ _) (blame_ne_token _ _ _ _)
    · cases digits with
      | nil => exact iff_of_false (blame_ne_token _ _ _ _) (blame_ne_token _ _ _ _)
      | cons digit digits =>
        have within := digitRun_length_le run
        simp only [List.drop_append_of_le_length within]
        generalize (text.drop 2).drop count = rest
        rcases rest with _ | ⟨next, rest⟩
        · have plain (kind : TokenKind) (length : Nat) : endNumber kind length (char :: behind) =
              .token kind length := endNumber_append ends [] behind kind length
          simp [ends.isDigit, plain]
        · have continued (kind : TokenKind) (length : Nat) :
              endNumber kind length (next :: (rest ++ char :: behind)) =
                endNumber kind length (next :: rest) :=
            endNumber_append ends (next :: rest) behind kind length
          simp only [List.cons_append, continued]

/-- The base that a letter behind a zero announces. -/
def base? : Text → Option Nat
  | '0' :: letter :: _ =>
    if letter = 'x' ∨ letter = 'X' then some 16
    else if letter = 'o' ∨ letter = 'O' then some 8
    else if letter = 'b' ∨ letter = 'B' then some 2
    else none
  | _ => none

theorem number_eq (text : Text) :
    number text = (base? text).elim (decimalNumber text) (radixNumber · text) := by
  unfold number
  split <;> try rfl
  rename_i noLower noUpper noOctal noOctalUpper noBinary noBinaryUpper
  have decimal : base? text = none := by
    unfold base?
    split
    · rename_i letter rest
      have other (mark : Char)
          (never : ∀ behind, '0' :: letter :: rest = '0' :: mark :: behind → False) :
          letter ≠ mark := fun same => never rest (by rw [same])
      simp [other _ noLower, other _ noUpper, other _ noOctal, other _ noOctalUpper,
        other _ noBinary, other _ noBinaryUpper]
    · rfl
  rw [decimal]
  rfl

theorem base?_append (ends : EndsToken char) (first : Char) (text behind : Text) :
    base? (first :: text ++ char :: behind) = base? (first :: text) := by
  rcases text with _ | ⟨second, text⟩
  · have other (letter : Char) (alpha : letter.isAlpha = true) : char ≠ letter := by
      rintro rfl
      exact absurd alpha (by simp [ends.isAlpha])
    by_cases zero : first = '0'
    · simp [base?, zero, other 'x' rfl, other 'X' rfl, other 'o' rfl, other 'O' rfl, other 'b' rfl,
        other 'B' rfl]
    · simp [base?, zero]
  · by_cases zero : first = '0' <;> simp [base?, zero]

theorem two_le_length_of_base? {base : Nat} (known : base? text = some base) :
    2 ≤ text.length := by
  unfold base? at known
  split at known
  · simp
  · cases known

theorem keeps_number {first : Char} (opens : first.isDigit = true ∨ first = '.') (text : Text) :
    Keeps number (first :: text) := by
  have decimal := keeps_decimalNumber opens text
  cases known : base? (first :: text) with
  | none =>
    have same : number (first :: text) = decimalNumber (first :: text) := by
      rw [number_eq, known]
      rfl
    refine ⟨fun read => decimal.length_pos (same ▸ read),
      fun read => decimal.length_le (same ▸ read), fun ends behind kind length => ?_⟩
    rw [number_eq, base?_append ends, known, same]
    exact decimal.append_iff ends behind kind length
  | some base =>
    have radix := keeps_radixNumber base (two_le_length_of_base? known)
    have same : number (first :: text) = radixNumber base (first :: text) := by
      rw [number_eq, known]
      rfl
    refine ⟨fun read => radix.length_pos (same ▸ read),
      fun read => radix.length_le (same ▸ read), fun ends behind kind length => ?_⟩
    rw [number_eq, base?_append ends, known, same]
    exact radix.append_iff ends behind kind length

theorem takeWhile_append_ender {accepts : Char → Bool} {char : Char} (other : accepts char = false)
    (text behind : Text) :
    (text ++ char :: behind).takeWhile accepts = text.takeWhile accepts := by
  rw [List.takeWhile_append]
  split
  · rename_i whole
    rw [List.takeWhile_cons_of_neg (by simp [other]), List.append_nil]
    exact ((List.takeWhile_prefix _).eq_of_length whole).symm
  · rfl

theorem nameLexeme_length {kind : TokenKind} {length : Nat}
    (read : nameLexeme text = .token kind length) :
    length = (text.takeWhile continuesName).length := by
  unfold nameLexeme at read
  dsimp only at read
  split at read
  · exact (Lexeme.token.inj read).2.symm
  · split at read
    · cases read
    · exact (Lexeme.token.inj read).2.symm

theorem keeps_nameLexeme {first : Char} (opens : continuesName first = true) (text : Text) :
    Keeps nameLexeme (first :: text) where
  length_pos read := by
    rw [nameLexeme_length read, List.takeWhile_cons_of_pos opens]
    exact Nat.succ_pos _
  length_le read := nameLexeme_length read ▸ (List.takeWhile_prefix _).length_le
  append_iff ends behind kind length := by
    rw [nameLexeme, takeWhile_append_ender ends.continuesName, nameLexeme]

theorem contains_take_append (ends : EndsToken char) {marks : List Text} (count : Nat)
    (known : marks ⊆ tripleMarks ++ doubleMarks) (long : ∀ mark ∈ marks, mark.length = count)
    (text behind : Text) :
    marks.contains ((text ++ char :: behind).take count) = marks.contains (text.take count) ∧
      (marks.contains (text.take count) = true →
        count ≤ text.length ∧ (text ++ char :: behind).take count = text.take count) := by
  by_cases fits : count ≤ text.length
  · have same : (text ++ char :: behind).take count = text.take count :=
      List.take_append_of_le_length fits
    exact ⟨by rw [same], fun _ => ⟨fits, same⟩⟩
  · have short : text.take count ∉ marks := by
      intro member
      have length := long _ member
      rw [List.length_take] at length
      omega
    have touched : (text ++ char :: behind).take count ∉ marks := by
      intro member
      refine ends.unmarked _ (known member) ?_
      rw [List.take_append]
      apply List.mem_append_right
      obtain ⟨more, positive⟩ : ∃ more, count - text.length = more + 1 :=
        ⟨count - text.length - 1, by omega⟩
      rw [positive]
      exact List.mem_cons_self
    simp [short, touched]

theorem markLexeme_append (ends : EndsToken char) (first : Char) (text behind : Text) :
    markLexeme first (text ++ char :: behind) = markLexeme first text := by
  have triple := contains_take_append ends 3
    (List.subset_append_left tripleMarks doubleMarks) (by decide) text behind
  have double := contains_take_append ends 2
    (List.subset_append_right tripleMarks doubleMarks) (by decide) text behind
  unfold markLexeme
  rw [triple.1, double.1]
  split
  · rename_i known
    rw [(triple.2 known).2]
  · split
    · rename_i known
      rw [(double.2 known).2]
    · rfl

theorem markLexeme_length {first : Char} {kind : TokenKind} {length : Nat}
    (read : markLexeme first (first :: text) = .token kind length) :
    0 < length ∧ length ≤ (first :: text).length := by
  have ends : EndsToken ')' := endsToken_of_mem (by decide)
  have triple := contains_take_append ends 3
    (List.subset_append_left tripleMarks doubleMarks) (by decide) (first :: text) []
  have double := contains_take_append ends 2
    (List.subset_append_right tripleMarks doubleMarks) (by decide) (first :: text) []
  unfold markLexeme at read
  split at read
  · rename_i known
    rw [← (Lexeme.token.inj read).2]
    exact ⟨by decide, (triple.2 known).1⟩
  · split at read
    · rename_i known
      rw [← (Lexeme.token.inj read).2]
      exact ⟨by decide, (double.2 known).1⟩
    · split at read
      · cases read
      · rw [← (Lexeme.token.inj read).2]
        exact ⟨Nat.one_pos, Nat.succ_pos _⟩

theorem keeps_markLexeme (first : Char) (text : Text) :
    Keeps (markLexeme first) (first :: text) where
  length_pos read := (markLexeme_length read).1
  length_le read := (markLexeme_length read).2
  append_iff ends behind kind length := by rw [markLexeme_append ends]

theorem isSome_quotation? (text : Text) :
    (quotation? text).isSome =
      (let letters := text.takeWhile marksQuotation
      decide (letters.length ≤ 2 ∧
        quotationLetters.contains (String.ofList (letters.map Char.toLower))) &&
        (text.drop letters.length).head?.any fun quote => quote == '"' || quote == '\'') := by
  unfold quotation?
  dsimp only
  rw [show (fun char => "bBrRuUfF".toList.contains char) = marksQuotation from rfl]
  generalize text.takeWhile marksQuotation = letters
  generalize text.drop letters.length = behind
  by_cases known : letters.length ≤ 2 ∧
    quotationLetters.contains (String.ofList (letters.map Char.toLower)) = true
  · rw [if_pos known, decide_eq_true known, Bool.true_and]
    rcases behind with _ | ⟨quote, rest⟩
    · rfl
    · by_cases quoted : quote = '"' ∨ quote = '\''
      · dsimp only
        rw [if_pos quoted]
        split <;> simpa using quoted
      · simp [not_or.mp quoted]
  · rw [if_neg known, decide_eq_false known]
    rfl

theorem isSome_quotation?_append (ends : EndsToken char) (text behind : Text) :
    (quotation? (text ++ char :: behind)).isSome = (quotation? text).isSome := by
  have noLetter : marksQuotation char = false := by
    have alpha : ∀ letter ∈ "bBrRuUfF".toList, letter.isAlpha = true := by simp
    simp only [marksQuotation, List.contains_eq_mem, decide_eq_false_iff_not]
    intro member
    exact absurd (alpha char member) (by simp [ends.isAlpha])
  rw [isSome_quotation?, isSome_quotation?]
  dsimp only
  rw [takeWhile_append_ender noLetter,
    List.drop_append_of_le_length (List.takeWhile_prefix _).length_le]
  cases text.drop (text.takeWhile marksQuotation).length with
  | nil => simp [ends.ne_quote]
  | cons quote others => rfl

/-- The first characters of a text choose how its token is read, and what stands behind an ender
does not change the choice. -/
theorem exists_reader (first : Char) {text : Text} (unquoted : quotation? (first :: text) = none) :
    ∃ reader, Keeps reader (first :: text) ∧ lexeme first (first :: text) = reader (first :: text) ∧
      ∀ char behind, EndsToken char →
        lexeme first (first :: text ++ char :: behind) =
          reader (first :: text ++ char :: behind) := by
  have unquotedBehind (char : Char) (behind : Text) (ends : EndsToken char) :
      quotation? (first :: (text ++ char :: behind)) = none := by
    have same := isSome_quotation?_append ends (first :: text) behind
    rwa [unquoted, Option.isSome_none, Option.isSome_eq_false_iff, Option.isNone_iff_eq_none]
      at same
  have mark := keeps_markLexeme first text
  cases named : opensName first with
  | true =>
    have continues : continuesName first = true := by
      unfold opensName at named
      unfold continuesName Char.isAlphanum
      grind
    refine ⟨nameLexeme, keeps_nameLexeme continues text, ?_, fun char behind ends => ?_⟩
    · simp [lexeme, unquoted, named]
    · simp [lexeme, unquotedBehind char behind ends, named]
  | false =>
    cases digit : first.isDigit with
    | true =>
      refine ⟨number, keeps_number (.inl digit) text, ?_, fun char behind ends => ?_⟩
      · simp [lexeme, unquoted, named, digit]
      · simp [lexeme, unquotedBehind char behind ends, named, digit]
    | false =>
      by_cases point : first = '.'
      · subst point
        rcases text with _ | ⟨next, text⟩
        · refine ⟨markLexeme '.', mark, ?_, fun char behind ends => ?_⟩
          · simp [lexeme, unquoted, named]
          · have unquoted : quotation? ('.' :: char :: behind) = none :=
              unquotedBehind char behind ends
            simp [lexeme, unquoted, named, ends.isDigit]
        · cases place : next.isDigit with
          | true =>
            refine ⟨number, keeps_number (.inr rfl) _, ?_, fun char behind ends => ?_⟩
            · simp [lexeme, unquoted, named, place]
            · have unquoted : quotation? ('.' :: next :: (text ++ char :: behind)) = none :=
                unquotedBehind char behind ends
              simp [lexeme, unquoted, named, place]
          | false =>
            refine ⟨markLexeme '.', mark, ?_, fun char behind ends => ?_⟩
            · simp [lexeme, unquoted, named, place]
            · have unquoted : quotation? ('.' :: next :: (text ++ char :: behind)) = none :=
                unquotedBehind char behind ends
              simp [lexeme, unquoted, named, place]
      · refine ⟨markLexeme first, mark, ?_, fun char behind ends => ?_⟩
        · simp [lexeme, unquoted, named, digit, point]
        · simp [lexeme, unquotedBehind char behind ends, named, digit, point]

theorem keeps_lexeme {first : Char} {text : Text} (unquoted : quotation? (first :: text) = none) :
    Keeps (lexeme first) (first :: text) := by
  rcases exists_reader first unquoted with ⟨reader, keeps, same, sameBehind⟩
  refine ⟨fun read => keeps.length_pos (same ▸ read), fun read => keeps.length_le (same ▸ read),
    fun ends behind kind length => ?_⟩
  rw [sameBehind _ _ ends, same]
  exact keeps.append_iff ends behind kind length

/-! ## Kinds of tokens -/

/-- Which tokens can begin with a character. -/
def Opens (char : Char) : TokenKind → Prop
  | .mark symbol => symbol = [char] ∨ 2 ≤ symbol.length
  | .newline | .indentation _ | .strayBackslash _ | .finish => False
  | _ => True

theorem opens_of_decimalEnd {char : Char} {whole fraction rest : Text} {pointed : Bool}
    {exponent : Option Int} {length count : Nat} {kind : TokenKind}
    (read : decimalEnd whole fraction pointed exponent length rest = .token kind count) :
    Opens char kind := by
  unfold decimalEnd at read
  dsimp only at read
  split at read
  · rw [(endNumber_token read).1]
    trivial
  · rw [(endNumber_token read).1]
    trivial
  · split at read
    · cases read
    · split at read <;> rw [(endNumber_token read).1]
      · split <;> trivial
      · trivial

theorem opens_of_decimalNumber {char : Char} {kind : TokenKind} {length : Nat}
    (read : decimalNumber text = .token kind length) : Opens char kind := by
  rw [decimalNumber_eq] at read
  split at read
  · cases read
  · split at read
    · cases read
    · unfold decimalFrom at read
      split at read
      · cases read
      · exact opens_of_decimalEnd read

theorem opens_of_radixNumber {char : Char} {base : Nat} {kind : TokenKind} {length : Nat}
    (read : radixNumber base text = .token kind length) : Opens char kind := by
  unfold radixNumber at read
  dsimp only at read
  split at read
  · split at read
    · split at read <;> cases read
    · cases read
  · split at read
    · split at read <;> cases read
    · cases read
  · split at read
    · split at read
      · cases read
      · rw [(endNumber_token read).1]
        trivial
    · cases read
      trivial

theorem opens_of_number {char : Char} {kind : TokenKind} {length : Nat}
    (read : number text = .token kind length) : Opens char kind := by
  rw [number_eq] at read
  cases known : base? text with
  | none =>
    rw [known, Option.elim_none] at read
    exact opens_of_decimalNumber read
  | some base =>
    rw [known, Option.elim_some] at read
    exact opens_of_radixNumber read

theorem opens_of_markLexeme {char : Char} {kind : TokenKind} {length : Nat}
    (read : markLexeme char text = .token kind length) : Opens char kind := by
  have long : ∀ mark ∈ tripleMarks ++ doubleMarks, 2 ≤ mark.length := by decide
  unfold markLexeme at read
  split at read
  · rename_i known
    cases read
    exact .inr (long _ (List.mem_append_left _ (List.contains_iff_mem.mp known)))
  · split at read
    · rename_i known
      cases read
      exact .inr (long _ (List.mem_append_right _ (List.contains_iff_mem.mp known)))
    · split at read <;> cases read
      exact .inl rfl

theorem opens_of_quotation? {char : Char} {kind : TokenKind} {length : Nat}
    (read : quotation? text = some (.token kind length)) :
    Opens char kind ∧ kind.isPlain = false := by
  unfold quotation? at read
  dsimp only at read
  split at read
  · split at read
    · split at read
      · split at read
        · cases read
        · cases read
          exact ⟨trivial, rfl⟩
      · cases read
    · cases read
  · cases read

theorem opens_of_lexeme {char : Char} {kind : TokenKind} {length : Nat}
    (read : lexeme char text = .token kind length) : Opens char kind := by
  have mark : markLexeme char text = .token kind length → Opens char kind := opens_of_markLexeme
  unfold lexeme at read
  split at read
  · rename_i found quoted
    exact (opens_of_quotation? (quoted.trans (congrArg some read))).1
  · split at read
    · unfold nameLexeme at read
      dsimp only at read
      split at read
      · cases read
        trivial
      · split at read <;> cases read
        trivial
    · split at read
      · exact opens_of_number read
      · split at read
        · split at read
          · split at read
            · exact opens_of_number read
            · exact mark read
          · exact mark read
        · exact mark read

theorem unquoted_of_lexeme {first : Char} {kind : TokenKind} {length : Nat}
    (read : lexeme first text = .token kind length) (plain : kind.isPlain = true) :
    quotation? text = none := by
  cases quoted : quotation? text with
  | none => rfl
  | some found =>
    unfold lexeme at read
    simp only [quoted] at read
    subst read
    have known : Opens first kind ∧ kind.isPlain = false := opens_of_quotation? quoted
    exact absurd plain (by simp [known.2])

/-! ## Beginnings of tokens -/

theorem lexeme_of_control {char : Char} (control : char.toNat < 32) (rest : Text) :
    lexeme char (char :: rest) = .invalid 0 := by
  have noMark : ∀ mark ∈ tripleMarks ++ doubleMarks, ∀ first ∈ mark, 32 ≤ first.toNat := by
    simp [tripleMarks, doubleMarks]
  have unmarked (count : Nat) : (char :: rest).take (count + 1) ∉ tripleMarks ++ doubleMarks :=
    fun member => absurd (noMark _ member char List.mem_cons_self) (not_le.mpr control)
  have triple : tripleMarks.contains ((char :: rest).take 3) = false := by
    simpa using fun member => unmarked 2 (List.mem_append_left _ member)
  have double : doubleMarks.contains ((char :: rest).take 2) = false := by
    simpa using fun member => unmarked 1 (List.mem_append_right _ member)
  have noWord : char.isAlphanum = false := by
    by_contra word
    have range := Expr.toNat_of_isAlphanum (Bool.not_eq_false _ ▸ word)
    omega
  have other (mark : Char) (visible : 32 ≤ mark.toNat) : char ≠ mark := by
    rintro rfl
    omega
  have unquoted : quotation? (char :: rest) = none := by
    refine quotation?_cons_eq_none ?_ ⟨other '"' (by decide), other '\'' (by decide)⟩
    have letters : ∀ letter ∈ "bBrRuUfF".toList, 32 ≤ letter.toNat := by simp
    simp only [marksQuotation, List.contains_eq_mem, decide_eq_false_iff_not]
    exact fun member => other char (letters char member) rfl
  rw [Char.isAlphanum, Bool.or_eq_false_iff] at noWord
  have noName : opensName char = false := by
    simp [opensName, noWord.1, other '_' (by decide), show ¬128 ≤ char.toNat by omega]
  simp only [lexeme, unquoted, noName, noWord.2, other '.' (by decide), markLexeme, triple, double,
    control, true_or, Bool.false_eq_true, if_false, if_true]

theorem isBlank_of_lexeme {char : Char} {rest : Text} {kind : TokenKind} {count : Nat}
    (visible : char ∉ separators) (found : lexeme char (char :: rest) = .token kind count)
    (plain : kind.isPlain = true) : Text.isBlank char = false := by
  -- The blanks outside of ASCII: with none of them a name can begin.
  have foreign : ∀ code ∈ [0x85, 0xA0, 0x1680, 0x2000, 0x2001, 0x2002, 0x2003, 0x2004, 0x2005,
      0x2006, 0x2007, 0x2008, 0x2009, 0x200A, 0x2028, 0x2029, 0x202F, 0x205F, 0x3000],
      Text.inRanges Text.nameStartRanges code = false := by decide +kernel
  by_contra blank
  have unquoted := unquoted_of_lexeme found plain
  by_cases ascii : char.toNat < 128
  · by_cases space : char = ' '
    · exact visible (space ▸ by decide)
    · have code : char.toNat ≠ 32 := fun same => space (Char.toNat_inj.mp same)
      rw [lexeme_of_control (by simp [Text.isBlank] at blank; omega)] at found
      cases found
  · have start : Text.isNameStart char = false := by
      rw [Text.isNameStart, if_neg ascii]
      exact foreign char.toNat (by simp [Text.isBlank] at blank ⊢; omega)
    have opens : opensName char = true := by simp [opensName, not_lt.mp ascii]
    have continues : continuesName char = true := by simp [continuesName, not_lt.mp ascii]
    simp only [lexeme, unquoted, opens, if_true, nameLexeme,
      List.takeWhile_cons_of_pos continues, badCharacter?, start, Bool.false_eq_true, if_false]
      at found
    split at found
    · cases found
      cases plain
    · cases found

end Lexer

end StepScript

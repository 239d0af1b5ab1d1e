import StepScript.Proofs.Expression.Composition
import StepScript.Proofs.Number.Magnitude

/-!
# Numerals as expressions

A numeral may be written with the digits of any script, an expression only with those of ASCII.  So
the lexer reads the number of a numeral as one token, or it is blocked by a digit that it does not
know (`lexeme_cases`).  Where the numeral is an expression, the two denote the same double.
-/

namespace StepScript

open StepScript.Lexer StepScript.Parser StepScript.Expr StepScript.Token

/-- A decimal digit of another script than ASCII. -/
structure Foreign (char : Char) : Prop where
  beyond : 128 ≤ char.toNat
  digit : Text.isDigit char = true

namespace Foreign

variable {char : Char}

theorem ne (foreign : Foreign char) {other : Char} (small : other.toNat < 128) : char ≠ other := by
  rintro rfl
  exact absurd foreign.beyond (not_le.mpr small)

theorem isDigit (foreign : Foreign char) : char.isDigit = false := by
  cases digit : char.isDigit with
  | false => rfl
  | true =>
    have range := Number.toNat_of_isDigit digit
    exact absurd foreign.beyond (by omega)

/-- No name begins with a digit: no series of ten digits meets a range of such characters. -/
theorem isNameStart (foreign : Foreign char) : Text.isNameStart char = false := by
  have apart : (Text.decimalZeros.all fun base => Text.nameStartRanges.all fun range =>
      range.2 < base || base + 9 < range.1) = true := by decide +kernel
  have large : ¬char.toNat < 128 := not_lt.mpr foreign.beyond
  have digit := foreign.digit
  simp only [Text.isDigit, Text.digit?, large, if_false, Option.isSome_map] at digit
  rcases List.find?_isSome.mp digit with ⟨base, member, within⟩
  simp only [Bool.and_eq_true, decide_eq_true_eq] at within
  rw [Text.isNameStart, if_neg large, Text.inRanges, List.any_eq_false]
  intro range inside
  have outside := List.all_eq_true.mp (List.all_eq_true.mp apart base member) range inside
  simp only [Bool.or_eq_true, decide_eq_true_eq] at outside
  simp only [Bool.and_eq_true, decide_eq_true_eq]
  omega

end Foreign

theorem isDigit_or_foreign {char : Char} (digit : Text.isDigit char = true) :
    char.isDigit = true ∨ Foreign char := by
  by_cases small : char.toNat < 128
  · exact .inl (by simpa [Text.isDigit, Text.digit?, small, apply_ite Option.isSome] using digit)
  · exact .inr ⟨not_lt.mp small, digit⟩

theorem isDigit_of_ascii {char : Char} (digit : char.isDigit = true) :
    Text.isDigit char = true := by
  have small : char.toNat < 128 := (Number.toNat_of_isDigit digit).2.trans_lt (by decide)
  simp [Text.isDigit, Text.digit?, small, digit]

theorem digits_cases {digits : Text} (each : ∀ char ∈ digits, Text.isDigit char = true) :
    (∀ char ∈ digits, char.isDigit = true) ∨
      ∃ front char behind, digits = front ++ char :: behind ∧
        (∀ char ∈ front, char.isDigit = true) ∧ Foreign char := by
  induction digits with
  | nil => exact .inl (List.forall_mem_nil _)
  | cons first digits ih =>
    rcases isDigit_or_foreign (each first List.mem_cons_self) with ascii | foreign
    · rcases ih fun char member => each char (List.mem_cons_of_mem _ member) with
        all | ⟨front, char, behind, rfl, plain, foreign⟩
      · exact .inl (List.forall_mem_cons.mpr ⟨ascii, all⟩)
      · exact .inr ⟨first :: front, char, behind, rfl, List.forall_mem_cons.mpr ⟨ascii, plain⟩,
          foreign⟩
    · exact .inr ⟨[], first, digits, rfl, List.forall_mem_nil _, foreign⟩

namespace Lexer

/-- In front of a text the lexer finds at most a token that ends in front of a foreign digit. -/
structure Blocked (text : Text) (found : Lexeme) : Prop where
  foreign : ∃ char ∈ text, Foreign char
  stops : ∀ kind count, found = .token kind count →
    ∃ char behind, text.drop count = char :: behind ∧ Foreign char

variable {char : Char} {tail text behind whole fraction : Text} {exponent : Int}

/-! ## Exponents -/

theorem exponentPart_digits {mark : Char} {sign digits : Text} {negative : Bool}
    (marked : mark = 'e' ∨ mark = 'E')
    (taken : Numeral.takeSign (sign ++ (digits ++ behind)) = (negative, digits ++ behind))
    (spoken : digits ≠ []) (ascii : ∀ char ∈ digits, char.isDigit = true)
    (ends : ∀ char ∈ behind.head?, char.isDigit = false ∧ char ≠ '_') :
    exponentPart (mark :: (sign ++ (digits ++ behind))) =
      .ok (some (if negative then -(Text.digitsValue digits : Int) else Text.digitsValue digits,
        (mark :: (sign ++ digits)).length)) := by
  have signs : (sign ++ (digits ++ behind)).length - (digits ++ behind).length = sign.length := by
    simp
  have length : 1 + sign.length + digits.length = (mark :: (sign ++ digits)).length := by
    simp only [List.length_cons, List.length_append]
    omega
  have run := digitRun_append ascii ends
  rw [exponentPart, if_pos marked, taken]
  simp only [signs]
  rcases List.exists_cons_of_ne_nil spoken with ⟨first, more, rfl⟩
  have digit := ascii first List.mem_cons_self
  rw [List.cons_append] at run ⊢
  simp only [digit, if_true, run, length]

/-- An exponent is read to its end, or up to a foreign digit. -/
theorem exponentPart_cases (scaled : Numeral.readExponent? tail = some exponent) :
    exponentPart tail = .ok (if tail.isEmpty then none else some (exponent, tail.length)) ∨
      ∃ front char behind, tail = front ++ char :: behind ∧ Foreign char ∧
        ((∃ value, exponentPart tail = .ok (some (value, front.length))) ∨
          (exponentPart tail = .ok none ∧ ∃ mark, front = [mark] ∧ (mark = 'e' ∨ mark = 'E')) ∨
          ∃ offset, exponentPart tail = .error offset) := by
  cases tail with
  | nil => exact .inl rfl
  | cons mark rest =>
    rcases Numeral.readExponent?_cons scaled with
      ⟨marked, negative, digits, taken, spoken, each, rfl⟩
    have split : ∃ sign, rest = sign ++ digits := by
      rcases Numeral.takeSign_cases taken with ⟨-, same⟩ | ⟨-, same⟩ | ⟨-, same⟩
      · exact ⟨['-'], same⟩
      · exact ⟨['+'], same⟩
      · exact ⟨[], same⟩
    rcases split with ⟨sign, rfl⟩
    rcases digits_cases each with ascii | ⟨front, char, behind, rfl, ascii, foreign⟩
    · left
      rw [← List.append_nil digits] at taken
      simpa using exponentPart_digits marked taken spoken ascii (by simp)
    · right
      refine ⟨mark :: (sign ++ front), char, behind, by simp, foreign, ?_⟩
      by_cases read : front = []
      · subst read
        right
        rw [exponentPart, if_pos marked, taken]
        simp only [List.nil_append, foreign.isDigit, Bool.false_eq_true, if_false]
        by_cases unsigned : sign.length = 0
        · left
          rw [List.length_eq_zero_iff.mp unsigned]
          exact ⟨by simp, mark, rfl, marked⟩
        · right
          exact ⟨1, by simp [unsigned]⟩
      · left
        exact ⟨_, exponentPart_digits marked taken read ascii
          (by simpa using ⟨foreign.isDigit, foreign.ne (by decide)⟩)⟩

/-! ## Numbers -/

theorem decimalEnd_foreign (foreign : Foreign char) {pointed : Bool} {exponent : Option Int}
    {length count : Nat} {kind : TokenKind}
    (found : decimalEnd whole fraction pointed exponent length (char :: behind) =
      .token kind count) : count = length := by
  unfold decimalEnd at found
  split at found
  · rename_i same
    exact absurd (List.cons.inj same).1 (foreign.ne (by decide))
  · rename_i same
    exact absurd (List.cons.inj same).1 (foreign.ne (by decide))
  · dsimp only at found
    split at found
    · cases found
    · split at found <;> exact (endNumber_token found).2

/-- The mark of an exponent without digits makes a number unreadable. -/
theorem decimalEnd_mark (foreign : Foreign char) {mark : Char} (marked : mark = 'e' ∨ mark = 'E')
    {pointed : Bool} {exponent : Option Int} {length : Nat} :
    decimalEnd whole fraction pointed exponent length (mark :: char :: behind) =
      .invalid (length - 1) := by
  have noElse : 'l' ≠ char := (foreign.ne (by decide)).symm
  have refused (kind : TokenKind) :
      endNumber kind length (mark :: char :: behind) = .invalid (length - 1) := by
    have name : continuesName mark = true := by rcases marked with rfl | rfl <;> decide
    have small : mark.toNat < 128 := by rcases marked with rfl | rfl <;> decide
    have absent : wordMayFollow (mark :: char :: behind) = false := by
      rcases marked with rfl | rfl <;> simp [wordMayFollow, Text.after?, noElse]
    simp [endNumber, name, small, absent]
  rcases marked with rfl | rfl <;> simp [decimalEnd, refused]

theorem blocked_decimalFrom (foreign : Foreign char) {length : Nat} {pointed : Bool}
    (left : text.drop length = char :: behind) :
    Blocked text (decimalFrom text whole fraction pointed length) := by
  have member : char ∈ text := List.mem_of_mem_drop (left ▸ List.mem_cons_self)
  have noExponent : exponentPart (char :: behind) = .ok none := by
    rw [exponentPart, if_neg]
    rintro (same | same) <;> exact foreign.ne (by decide) same
  refine ⟨⟨char, member, foreign⟩, fun kind count found => ?_⟩
  simp only [decimalFrom, left, noExponent, Option.map_none, Option.getD_none,
    Nat.add_zero] at found
  rw [decimalEnd_foreign foreign found]
  exact ⟨char, behind, left, foreign⟩

/-- Behind its digits a number is read to its end, or up to a foreign digit. -/
theorem decimalFrom_cases (scaled : Numeral.readExponent? tail = some exponent) {pointed : Bool}
    {length : Nat} (left : text.drop length = tail) (inside : length ≤ text.length) :
    decimalFrom text whole fraction pointed length =
        decimalEnd whole fraction pointed (if tail.isEmpty then none else some exponent)
          text.length [] ∨
      Blocked text (decimalFrom text whole fraction pointed length) := by
  have total : length + tail.length = text.length := by
    rw [← left, List.length_drop]
    omega
  rcases exponentPart_cases scaled with read | ⟨front, char, behind, rfl, foreign, blocked⟩
  · left
    unfold decimalFrom
    rw [left, read]
    cases tail with
    | nil =>
      rw [List.length_nil, Nat.add_zero] at total
      simp [total]
    | cons mark rest =>
      simp only [List.isEmpty_cons, Bool.false_eq_true, if_false, Option.map_some,
        Option.getD_some, total, List.drop_length]
  · right
    have member : char ∈ text := List.mem_of_mem_drop (i := length) (by rw [left]; simp)
    refine ⟨⟨char, member, foreign⟩, fun kind count found => ?_⟩
    unfold decimalFrom at found
    rw [left] at found
    rcases blocked with ⟨value, read⟩ | ⟨read, marked⟩ | ⟨offset, read⟩
    · have rest : text.drop (length + front.length) = char :: behind := by
        rw [← List.drop_drop, left, List.drop_left]
      simp only [read, Option.map_some, Option.getD_some, rest] at found
      rw [decimalEnd_foreign foreign found]
      exact ⟨char, behind, rest, foreign⟩
    · rcases marked with ⟨mark, rfl, marked⟩
      rw [read] at found
      simp only [Option.map_none, Option.getD_none, Nat.add_zero, left] at found
      rw [List.singleton_append, decimalEnd_mark foreign marked] at found
      cases found
    · simp [read] at found

theorem fractionPart_point (places : Text) (ends : ∀ char ∈ places.head?, char ≠ '_') :
    fractionPart ('.' :: places) = (true, digitRun Char.isDigit places) := by
  cases places with
  | nil => rfl
  | cons char places =>
    have plain := ends char rfl
    by_cases digit : char.isDigit = true
    · simp [fractionPart, digit]
    · simp [fractionPart, digit, digitRun, plain]

theorem fractionPart_eq (plain : ∀ char ∈ text.head?, char ≠ '.') :
    fractionPart text = (false, .ok ([], 0)) := by
  unfold fractionPart
  split
  · exact absurd rfl (plain '.' rfl)
  · rfl

end Lexer

namespace Magnitude

variable (magnitude : Magnitude)

/-- The token of a number, if it has no idle zeros in front. -/
def kind : TokenKind :=
  if magnitude.isInteger then
    if digitLimit < magnitude.whole.length then .longInteger
    else .integer (Text.digitsValue magnitude.whole)
  else .double (magnitude.numeral false).toFloat

/-- Whether an integer begins with zeros and is not zero. -/
def isPadded : Bool :=
  magnitude.isInteger && magnitude.whole.head? == some '0' && magnitude.whole.any (· != '0')

/-- What the lexer finds in front of a number whose digits it knows. -/
def lexeme : Lexeme :=
  if magnitude.isPadded then .leadingZeros else .token magnitude.kind magnitude.text.length

theorem decimalEnd_eq_lexeme :
    decimalEnd magnitude.whole (magnitude.places?.getD []) magnitude.places?.isSome
      (if magnitude.tail.isEmpty then none else some magnitude.exponent) magnitude.text.length [] =
      magnitude.lexeme := by
  rcases magnitude with ⟨whole, places?, tail, exponent, digits, spoken, scaled⟩
  cases places? with
  | some places => cases tail with
    | nil =>
      cases Option.some.inj scaled
      simp [decimalEnd, lexeme, isPadded, isInteger, kind, numeral, endNumber]
    | cons mark rest =>
      simp [decimalEnd, lexeme, isPadded, isInteger, kind, numeral, endNumber]
  | none => cases tail with
    | nil => simp [decimalEnd, lexeme, isPadded, isInteger, kind, endNumber]
    | cons mark rest =>
      simp [decimalEnd, lexeme, isPadded, isInteger, kind, numeral, endNumber]

/-- The characters of numbers. -/
theorem mem_text {char : Char} (member : char ∈ magnitude.text) :
    Text.isDigit char = true ∨ char ∈ ['.', 'e', 'E', '+', '-'] := by
  rcases magnitude with ⟨whole, places?, tail, exponent, digits, spoken, scaled⟩
  have exponential : char ∈ tail → Text.isDigit char = true ∨ char ∈ ['.', 'e', 'E', '+', '-'] := by
    intro inside
    cases tail with
    | nil => cases inside
    | cons mark rest =>
      rcases Numeral.readExponent?_cons scaled with ⟨marked, negative, digits, taken, -, each, -⟩
      rcases List.mem_cons.mp inside with rfl | inside
      · rcases marked with rfl | rfl <;> exact .inr (by decide)
      · rcases Numeral.takeSign_cases taken with ⟨-, rfl⟩ | ⟨-, rfl⟩ | ⟨-, rfl⟩
        · rcases List.mem_cons.mp inside with rfl | inside
          · exact .inr (by decide)
          · exact .inl (each char inside)
        · rcases List.mem_cons.mp inside with rfl | inside
          · exact .inr (by decide)
          · exact .inl (each char inside)
        · exact .inl (each char inside)
  simp only [text, pointed, List.mem_append] at member
  rcases member with inside | inside | inside
  · exact .inl (digits char (List.mem_append_left _ inside))
  · cases places? with
    | none => cases inside
    | some places =>
      rcases List.mem_cons.mp inside with rfl | inside
      · exact .inr (by decide)
      · exact .inl (digits char (List.mem_append_right _ inside))
  · exact exponential inside

/-- Behind the digits there is no digit and no underscore. -/
theorem head_tail {char : Char} (head : char ∈ magnitude.tail.head?) : char = 'e' ∨ char = 'E' := by
  have scaled := magnitude.scaled
  cases tail : magnitude.tail with
  | nil => simp [tail] at head
  | cons mark rest =>
    rw [tail] at head scaled
    cases Option.some.inj head
    exact (Numeral.readExponent?_cons scaled).1

theorem ends_tail : ∀ char ∈ magnitude.tail.head?, char.isDigit = false ∧ char ≠ '_' := by
  intro char head
  rcases magnitude.head_tail head with rfl | rfl <;> decide

/-- A fraction is read to its end, or up to a foreign digit. -/
theorem fractionPart_cases :
    fractionPart (magnitude.pointed ++ magnitude.tail) =
        (magnitude.places?.isSome,
          .ok (magnitude.places?.getD [], (magnitude.places?.getD []).length)) ∨
      ∃ front char behind, magnitude.pointed = '.' :: (front ++ char :: behind) ∧ Foreign char ∧
        fractionPart (magnitude.pointed ++ magnitude.tail) =
          (true, .ok (front, front.length)) := by
  cases given : magnitude.places? with
  | none =>
    have unpointed : magnitude.pointed = [] := by simp [pointed, given]
    left
    rw [unpointed, List.nil_append]
    apply fractionPart_eq
    intro char head
    rcases magnitude.head_tail head with rfl | rfl <;> decide
  | some places =>
    have point : magnitude.pointed = '.' :: places := by simp [pointed, given]
    have each : ∀ char ∈ places, Text.isDigit char = true := fun char member =>
      magnitude.digits char (List.mem_append_right _ (by simpa [given] using member))
    have plain : ∀ char ∈ (places ++ magnitude.tail).head?, char ≠ '_' := by
      rintro _ head rfl
      have member : '_' ∈ magnitude.text := by
        rw [text, point]
        exact List.mem_append_right _ (List.mem_cons_of_mem _ (List.mem_of_mem_head? head))
      rcases magnitude.mem_text member with digit | mark
      · exact absurd digit (by decide)
      · exact absurd mark (by decide)
    rw [point, List.cons_append, fractionPart_point _ plain]
    rcases digits_cases each with ascii | ⟨front, char, behind, rfl, ascii, foreign⟩
    · rw [digitRun_append ascii magnitude.ends_tail]
      exact .inl rfl
    · refine .inr ⟨front, char, behind, rfl, foreign, ?_⟩
      rw [List.append_assoc, List.cons_append, digitRun_append ascii]
      simpa using ⟨foreign.isDigit, foreign.ne (by decide)⟩

/-- The lexer stops inside of digits that it does not know. -/
theorem blocked_decimalNumber {front behind : Text} {char : Char}
    (same : magnitude.whole = front ++ char :: behind)
    (ascii : ∀ char ∈ front, char.isDigit = true) (foreign : Foreign char) :
    Blocked magnitude.text (decimalNumber magnitude.text) := by
  have text : magnitude.text =
      front ++ char :: (behind ++ (magnitude.pointed ++ magnitude.tail)) := by
    simp [Magnitude.text, same]
  have run : digitRun Char.isDigit magnitude.text = .ok (front, front.length) := by
    rw [text]
    exact digitRun_append ascii (by simpa using ⟨foreign.isDigit, foreign.ne (by decide)⟩)
  have left : magnitude.text.drop front.length =
      char :: (behind ++ (magnitude.pointed ++ magnitude.tail)) := by
    rw [text, List.drop_left]
  have flat : fractionPart (char :: (behind ++ (magnitude.pointed ++ magnitude.tail))) =
      (false, .ok ([], 0)) := fractionPart_eq (by simpa using foreign.ne (by decide))
  rw [decimalNumber_eq]
  simp only [run, left, flat]
  exact blocked_decimalFrom foreign left

/-- The lexer reads the digits it knows. -/
theorem decimalNumber_cases :
    decimalNumber magnitude.text = magnitude.lexeme ∨
      Blocked magnitude.text (decimalNumber magnitude.text) := by
  have whole : ∀ char ∈ magnitude.whole, Text.isDigit char = true :=
    fun char member => magnitude.digits char (List.mem_append_left _ member)
  rcases digits_cases whole with ascii | ⟨front, char, behind, same, ascii, foreign⟩
  case inr => exact .inr (magnitude.blocked_decimalNumber same ascii foreign)
  have stops : ∀ char ∈ (magnitude.pointed ++ magnitude.tail).head?,
      char.isDigit = false ∧ char ≠ '_' := by
    unfold pointed
    cases magnitude.places? with
    | none => simpa using magnitude.ends_tail
    | some places => simp
  have run : digitRun Char.isDigit magnitude.text =
      .ok (magnitude.whole, magnitude.whole.length) := digitRun_append ascii stops
  have left : magnitude.text.drop magnitude.whole.length = magnitude.pointed ++ magnitude.tail :=
    List.drop_left
  rw [decimalNumber_eq, ← magnitude.decimalEnd_eq_lexeme]
  simp only [run, left]
  rcases magnitude.fractionPart_cases with read | ⟨front, char, behind, point, foreign, read⟩
  · have length : magnitude.pointed.length = if magnitude.places?.isSome then
        1 + (magnitude.places?.getD []).length else 0 := by
      unfold pointed
      cases magnitude.places? with
      | none => rfl
      | some places => exact Nat.add_comm _ _
    have behind : magnitude.text.drop (magnitude.whole.length + magnitude.pointed.length) =
        magnitude.tail := by
      rw [← List.drop_drop, left, List.drop_left]
    simp only [read, ← length]
    refine decimalFrom_cases magnitude.scaled behind ?_
    simp only [Magnitude.text, List.length_append]
    omega
  · have blocked : magnitude.text.drop (magnitude.whole.length + (1 + front.length)) =
        char :: (behind ++ magnitude.tail) := by
      rw [← List.drop_drop, left, point, Nat.add_comm 1]
      simp
    simp only [read, if_true]
    exact .inr (blocked_decimalFrom foreign blocked)

theorem lexeme_foreign {char : Char} (foreign : Foreign char) (rest : Text) :
    Lexer.lexeme char (char :: rest) = .invalid 0 := by
  have noLetter : marksQuotation char = false := by
    have small : ∀ letter ∈ "bBrRuUfF".toList, letter.toNat < 128 := by simp
    simp only [marksQuotation, List.contains_eq_mem, decide_eq_false_iff_not]
    exact fun member => foreign.ne (small char member) rfl
  have unquoted : quotation? (char :: rest) = none :=
    quotation?_cons_eq_none noLetter ⟨foreign.ne (by decide), foreign.ne (by decide)⟩
  have opens : opensName char = true := by simp [opensName, foreign.beyond]
  have continues : continuesName char = true := by simp [continuesName, foreign.beyond]
  have unreserved : char :: rest.takeWhile continuesName ∉ reservedWords := by
    have small : (reservedWords.all fun word => word.head?.all (·.toNat < 128)) = true := by decide
    intro member
    exact foreign.ne (by simpa using List.all_eq_true.mp small _ member) rfl
  simp [Lexer.lexeme, unquoted, opens, nameLexeme, List.takeWhile_cons_of_pos continues, unreserved,
    badCharacter?, foreign.isNameStart]

/-- The lexer reads a number as one token if it knows its digits. -/
theorem lexeme_cases {first : Char} {rest : Text} (written : magnitude.text = first :: rest) :
    Lexer.lexeme first magnitude.text = magnitude.lexeme ∨
      Blocked magnitude.text (Lexer.lexeme first magnitude.text) := by
  have decimal : number magnitude.text = decimalNumber magnitude.text := by
    apply number_eq_decimalNumber
    intro char head letter
    have member : char ∈ magnitude.text := List.mem_of_mem_tail (List.mem_of_mem_head? head)
    simp only [List.mem_cons, List.not_mem_nil, or_false] at letter
    rcases magnitude.mem_text member with digit | mark
    · rcases letter with rfl | rfl | rfl | rfl | rfl | rfl <;> exact absurd digit (by decide)
    · rcases letter with rfl | rfl | rfl | rfl | rfl | rfl <;> exact absurd mark (by decide)
  have cases := magnitude.decimalNumber_cases
  rw [← decimal, written] at cases
  rw [written]
  cases whole : magnitude.whole with
  | cons digit digits =>
    obtain rfl : digit = first := by
      rw [text, whole, List.cons_append] at written
      exact (List.cons.inj written).1
    rcases isDigit_or_foreign (magnitude.digits digit (by simp [whole])) with ascii | foreign
    · rwa [lexeme_digit ascii]
    · rw [lexeme_foreign foreign]
      exact .inr ⟨⟨digit, List.mem_cons_self, foreign⟩, fun _ _ found => by cases found⟩
  | nil =>
    have spoken := magnitude.spoken
    rw [whole, List.nil_append] at spoken
    cases given : magnitude.places? with
    | none => exact absurd (by rw [given]; rfl) spoken
    | some places =>
      rw [given] at spoken
      rcases List.exists_cons_of_ne_nil spoken with ⟨place, others, same⟩
      obtain rfl : places = place :: others := same
      have point : first = '.' ∧ rest = place :: (others ++ magnitude.tail) := by
        rw [text, whole, pointed, given] at written
        exact ⟨(List.cons.inj written).1.symm, (List.cons.inj written).2.symm⟩
      rcases point with ⟨rfl, rfl⟩
      have unquoted : quotation? ('.' :: place :: (others ++ magnitude.tail)) = none :=
        quotation?_cons_eq_none (by decide) (by decide)
      have found : Lexer.lexeme '.' ('.' :: place :: (others ++ magnitude.tail)) =
          if place.isDigit then number ('.' :: place :: (others ++ magnitude.tail))
          else markLexeme '.' ('.' :: place :: (others ++ magnitude.tail)) := by
        simp [Lexer.lexeme, unquoted, opensName]
      rw [found]
      rcases isDigit_or_foreign (magnitude.digits place (by simp [given])) with ascii | foreign
      · rwa [if_pos ascii]
      · have mark : markLexeme '.' ('.' :: place :: (others ++ magnitude.tail)) =
            .token (.mark ['.']) 1 := by
          simp [markLexeme, tripleMarks, doubleMarks, foreign.ne (by decide : '.'.toNat < 128)]
        rw [if_neg (by simp [foreign.isDigit]), mark]
        refine .inr ⟨⟨place, by simp, foreign⟩, fun kind count found => ?_⟩
        cases found
        exact ⟨place, _, rfl, foreign⟩

variable {magnitude}

theorem not_row_foreign {char : Char} (foreign : Foreign char) {rest : Text}
    {closers final : List Char} {kinds : List TokenKind} :
    ¬Row closers (char :: rest) kinds final := by
  intro row
  cases row with
  | blank hidden more =>
    have small : ∀ blank ∈ Lexer.blanks, blank.toNat < 128 := by simp [Lexer.blanks]
    exact foreign.ne (small char hidden) rfl
  | token visible found shifts more =>
    rw [lexeme_foreign foreign] at found
    cases found

theorem exists_cons_text (magnitude : Magnitude) :
    ∃ first rest, magnitude.text = first :: rest ∧
      (Text.isDigit first = true ∨ first ∈ ['.', 'e', 'E', '+', '-']) := by
  cases text : magnitude.text with
  | nil =>
    refine absurd ?_ magnitude.spoken
    simp only [Magnitude.text, List.append_eq_nil_iff, pointed] at text
    rcases text with ⟨whole, point, -⟩
    cases given : magnitude.places? with
    | none => simp [whole]
    | some places => simp [given] at point
  | cons first rest => exact ⟨first, rest, rfl, magnitude.mem_text (text ▸ List.mem_cons_self)⟩

theorem kinds_of_row {closers final : List Char} {kinds : List TokenKind}
    (row : Row closers magnitude.text kinds final) :
    magnitude.isPadded = false ∧ kinds = [magnitude.kind] := by
  rcases magnitude.exists_cons_text with ⟨first, rest, written, opens⟩
  have cases := magnitude.lexeme_cases written
  rw [written] at row cases
  cases row with
  | blank hidden more =>
    simp only [Lexer.blanks, List.mem_cons, List.not_mem_nil, or_false] at hidden
    rcases opens with digit | mark
    · rcases hidden with rfl | rfl | rfl <;> exact absurd digit (by decide)
    · rcases hidden with rfl | rfl | rfl <;> exact absurd mark (by decide)
  | token visible found shifts more =>
    rcases cases with known | blocked
    · rw [found, lexeme] at known
      split at known
      · cases known
      · rename_i unpadded
        cases known
        rw [written, List.drop_length] at more
        cases more
        exact ⟨by simpa using unpadded, rfl⟩
    · rcases blocked.stops _ _ found with ⟨char, behind, left, foreign⟩
      rw [left] at more
      exact absurd more (not_row_foreign foreign)

/-! ## Values -/

/-- The tree of a number that the lexer reads. -/
def leaf (magnitude : Magnitude) : Tree :=
  if magnitude.isInteger then .integer default (Text.digitsValue magnitude.whole)
  else .double default (magnitude.numeral false).toFloat

theorem depth_leaf (magnitude : Magnitude) : magnitude.leaf.depth = 1 := by
  unfold leaf
  split <;> rfl

theorem derives_leaf (plain : magnitude.kind.isPlain = true) :
    Derives .atom [magnitude.kind] magnitude.leaf := by
  unfold kind leaf at *
  split
  · split at plain
    · split at plain
      · cases plain
      · rename_i few
        rw [if_neg few]
        exact .integer default _
    · contradiction
  · exact .double default _

theorem ofInteger?_of_evaluate (integer : magnitude.isInteger = true) {environment : Environment}
    {source : Text} {room : Nat} {value : Value}
    (evaluated : magnitude.leaf.evaluate environment source room = .ok value) :
    Number.ofInteger? (Text.digitsValue magnitude.whole) =
        some (magnitude.numeral false).toFloat ∧
      value = .number (magnitude.numeral false).toFloat := by
  rcases Tree.exists_room_of_evaluate evaluated with ⟨room, rfl⟩
  rw [leaf, if_pos integer, Tree.evaluate] at evaluated
  split at evaluated
  · rename_i small
    cases evaluated
    rw [toFloat_of_isInteger integer small]
    exact ⟨small, rfl⟩
  · cases evaluated

theorem evaluate_leaf {environment : Environment} {source : Text} {room : Nat} {value : Value}
    (evaluated : magnitude.leaf.evaluate environment source room = .ok value) :
    value = .number (magnitude.numeral false).toFloat := by
  cases integer : magnitude.isInteger with
  | true => exact (ofInteger?_of_evaluate integer evaluated).2
  | false =>
    rcases Tree.exists_room_of_evaluate evaluated with ⟨room, rfl⟩
    rw [leaf, integer] at evaluated
    cases evaluated
    rfl

theorem openBehind_kind (magnitude : Magnitude) (count : Nat) :
    openBehind count magnitude.kind = count := by
  unfold kind
  split
  · split <;> rfl
  · rfl

theorem spells_of_row {final : List Char} {kinds : List TokenKind}
    (row : Row [] magnitude.text kinds final) (plain : ∀ kind ∈ kinds, kind.isPlain = true) :
    Spells .atom 0 magnitude.text magnitude.leaf := by
  rcases kinds_of_row row with ⟨-, rfl⟩
  refine .of_row row (derives_leaf (plain _ (List.mem_singleton_self _))) ?_
  simp [nesting, deepest, openBehind_kind]

theorem ne_of_mem_text {char special : Char} (member : char ∈ magnitude.text)
    (noDigit : Text.isDigit special = false) (noMark : special ∉ ['.', 'e', 'E', '+', '-']) :
    char ≠ special := by
  rintro rfl
  rcases magnitude.mem_text member with digit | mark
  · exact absurd digit (by simp [noDigit])
  · exact noMark mark

/-- No character of a number separates tokens. -/
theorem solid {char : Char} (member : char ∈ magnitude.text) :
    char ∉ separators ∧ char ≠ '\x00' := by
  have known : ∀ special ∈ separators, Text.isDigit special = false ∧
      special ∉ ['.', 'e', 'E', '+', '-'] := by
    simp [separators, Text.isDigit, Text.digit?]
  refine ⟨fun hidden => ?_, ne_of_mem_text member (by decide) (by decide)⟩
  exact ne_of_mem_text member (known char hidden).1 (known char hidden).2 rfl

/-- No character of a number is a bracket. -/
theorem flat {char : Char} (member : char ∈ magnitude.text) :
    closer? char = none ∧ isCloser char = false := by
  have other (special : Char) (noDigit : Text.isDigit special = false)
      (noMark : special ∉ ['.', 'e', 'E', '+', '-']) : char ≠ special :=
    ne_of_mem_text member noDigit noMark
  constructor
  · unfold closer?
    split
    · exact absurd rfl (other '(' (by decide) (by decide))
    · exact absurd rfl (other '[' (by decide) (by decide))
    · exact absurd rfl (other '\x7b' (by decide) (by decide))
    · rfl
  · simp [isCloser, other ')' (by decide) (by decide), other ']' (by decide) (by decide),
      other '\x7d' (by decide) (by decide)]

/-- A number in ASCII is spelled as one token, if it has no idle zeros and not too many digits. -/
theorem spells_of_ascii (ascii : ∀ char ∈ magnitude.text, char.toNat < 128)
    (unpadded : magnitude.isPadded = false) (plain : magnitude.kind.isPlain = true) :
    Spells .atom 0 magnitude.text magnitude.leaf := by
  rcases magnitude.exists_cons_text with ⟨first, rest, written, opens⟩
  have found : Lexer.lexeme first magnitude.text =
      .token magnitude.kind magnitude.text.length := by
    rcases magnitude.lexeme_cases written with known | blocked
    · rw [known, lexeme, if_neg (by simp [unpadded])]
    · rcases blocked.foreign with ⟨char, member, foreign⟩
      exact absurd foreign.beyond (not_le.mpr (ascii char member))
  have member : first ∈ magnitude.text := written ▸ List.mem_cons_self
  rw [written] at found ⊢
  have scans := scans_of_lexeme (solid member).1 (flat member).1 (flat member).2 found plain
  have shallow : nesting [magnitude.kind] = 0 := by simp [nesting, deepest, openBehind_kind]
  exact ⟨[magnitude.kind], shallow ▸ scans, derives_leaf plain, shallow.le⟩

theorem apart_of_text {first : Char} {rest : Text} (written : magnitude.text = first :: rest) :
    first ≠ '=' ∧ first ≠ '>' := by
  have member : first ∈ magnitude.text := written ▸ List.mem_cons_self
  exact ⟨ne_of_mem_text member (by decide) (by decide),
    ne_of_mem_text member (by decide) (by decide)⟩

end Magnitude

theorem Numeral.exists_signed {text : Text} {numeral : Numeral}
    (read : Numeral.read? text = some numeral) :
    ∃ magnitude : Magnitude,
      (text = magnitude.text ∧ numeral.toFloat = (magnitude.numeral false).toFloat) ∨
      ∃ sign : Sign, text = sign.symbol ++ magnitude.text ∧
        numeral.toFloat = sign.apply (magnitude.numeral false).toFloat := by
  rcases Numeral.exists_magnitude read with ⟨magnitude, taken, same⟩
  refine ⟨magnitude, ?_⟩
  rcases Numeral.takeSign_cases taken with ⟨negative, text⟩ | ⟨positive, text⟩ | ⟨positive, text⟩
  · rw [negative] at same
    exact .inr ⟨.minus, text, by rw [same]; rfl⟩
  · rw [positive] at same
    exact .inr ⟨.plus, text, by rw [same]; rfl⟩
  · rw [positive] at same
    exact .inl ⟨text, by rw [same]⟩

theorem exists_row_of_sign {sign : Sign} {first : Char} {rest : Text} {closers final : List Char}
    {kinds : List TokenKind} (apart : first ≠ '=' ∧ first ≠ '>')
    (row : Row closers (sign.symbol ++ first :: rest) kinds final) :
    ∃ others, kinds = .mark sign.symbol :: others ∧ Row closers (first :: rest) others final := by
  rcases lexeme_sign sign apart rest with ⟨char, symbol, known⟩
  have noBlank : char ∉ Lexer.blanks ∧ closer? char = none ∧ isCloser char = false := by
    cases sign <;> cases symbol <;> decide
  rw [symbol, List.singleton_append] at row
  cases row with
  | blank hidden more => exact absurd hidden noBlank.1
  | token visible found shifts more =>
    rw [known] at found
    cases found
    cases shifts with
    | opens opener => simp [noBlank] at opener
    | closes noOpener closer => simp [noBlank] at closer
    | keeps noOpener noCloser => exact ⟨_, rfl, more⟩

/-- A sign changes the only number that its operand can be. -/
theorem evaluate_sign {sign : Sign} {operand : Tree} {environment : Environment} {source : Text}
    {number : Float}
    (only : ∀ room value, operand.evaluate environment source room = .ok value →
      value = .number number) {room : Nat} {value : Value}
    (evaluated :
      Tree.evaluate environment source room (.unary default sign.operator operand) = .ok value) :
    value = .number (sign.apply number) := by
  rcases Tree.exists_room_of_evaluate evaluated with ⟨room, rfl⟩
  rw [Tree.evaluate] at evaluated
  rcases Fault.exists_of_bind evaluated with ⟨inner, found, evaluated⟩
  cases only room inner found
  cases sign <;> cases evaluated <;> rfl

/-- What is read as a numeral and as an expression denotes the same number as both. -/
theorem evaluateText_numeral {text : Text} {numeral : Numeral} {environment : Environment}
    {value : Value} (read : Numeral.read? (stripStatement text) = some numeral)
    (evaluated : evaluateText text environment = .ok value) :
    value = .number numeral.toFloat := by
  rcases exists_tree_of_evaluateText evaluated with ⟨tree, readTree, evaluated⟩
  have allowed := Tree.allowed_of_evaluate evaluated
  generalize stripStatement text = source at read readTree evaluated
  rcases Numeral.exists_signed read with ⟨magnitude, shape⟩
  have solid : ∀ char ∈ source, char ∉ separators ∧ char ≠ '\x00' := by
    rcases shape with ⟨rfl, -⟩ | ⟨sign, rfl, -⟩
    · exact fun char => Magnitude.solid
    · refine List.forall_mem_append.mpr ⟨?_, fun char => Magnitude.solid⟩
      cases sign <;> simp [Sign.symbol, separators]
  have line : OneLine source := by
    intro char member
    have visible := (solid char member).1
    simp only [separators, List.mem_cons, List.not_mem_nil, or_false, not_or] at visible
    simp [visible]
  have visible : ∀ char ∈ source.head?, char ∉ separators :=
    fun char head => (solid char (List.mem_of_mem_head? head)).1
  have hidden : Lexer.blanks ⊆ separators := by decide
  rcases row_of_parseExpression line (fun char head blank => visible char head (hidden blank))
    readTree allowed with ⟨kinds, final, row, derives, -⟩
  have spelled : ∃ tree', Spells .expression 0 source tree' ∧ tree'.depth ≤ 2 ∧
      ∀ room value, tree'.evaluate environment [] room = .ok value →
        value = .number numeral.toFloat := by
    rcases shape with ⟨rfl, same⟩ | ⟨sign, rfl, same⟩
    · have spells := Magnitude.spells_of_row row derives.plain
      refine ⟨magnitude.leaf, spells.mono (by decide) le_rfl, by simp [Magnitude.depth_leaf],
        fun room value evaluated => ?_⟩
      rw [same]
      exact Magnitude.evaluate_leaf evaluated
    · rcases magnitude.exists_cons_text with ⟨first, rest, written, -⟩
      have apart := Magnitude.apart_of_text written
      rw [written] at row
      rcases exists_row_of_sign apart row with ⟨others, rfl, inner⟩
      rw [← written] at inner
      have spells := Magnitude.spells_of_row inner (List.forall_mem_cons.mp derives.plain).2
      rw [written] at spells ⊢
      refine ⟨_, ((spells.mono (by decide) le_rfl).unary sign apart).mono (by decide) le_rfl,
        by simp [Tree.depth, Magnitude.depth_leaf], fun room value evaluated => ?_⟩
      rw [same]
      exact evaluate_sign (fun room value => Magnitude.evaluate_leaf) evaluated
  rcases spelled with ⟨other, spells, shallow, determined⟩
  exact determined _ value (spells.evaluate_eq (Nat.zero_le _) visible
    (fun member => (solid _ member).2 rfl) (shallow.trans (by simp [constructionLimit])) readTree
    evaluated)

end StepScript

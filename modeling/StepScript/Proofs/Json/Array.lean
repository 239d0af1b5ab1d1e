import StepScript.Proofs.Breakdown
import StepScript.Proofs.Json.Numbers
import StepScript.Proofs.Json.RoundTrip
import StepScript.Proofs.Statement.Form

/-!
# Arrays of numbers as JSON text

How JSON text writes an array of numbers on one line, and that the reader finds these numbers in it
(`WritesArray.read?_eq_some`).  A number has digits without idle zeros, and behind them perhaps a
point with more digits and an exponent; spaces and tabs can stand around it.
-/

namespace StepScript.Json

/-! ## Numbers -/

structure Digits where
  text : Text
  spoken : text ≠ []
  decimal : ∀ char ∈ text, char.isDigit = true

/-- The exponent of a number: a letter, perhaps a sign, and digits. -/
structure Exponent where
  mark : Char
  sign : Text
  digits : Digits
  marked : mark = 'e' ∨ mark = 'E'
  signed : sign = [] ∨ sign = ['+'] ∨ sign = ['-']

namespace Exponent

/-- An exponent as it is written. -/
def text (exponent : Exponent) : Text :=
  exponent.mark :: (exponent.sign ++ exponent.digits.text)

/-- The power of ten that an exponent stands for. -/
def value (exponent : Exponent) : Int :=
  if exponent.sign = ['-'] then -(Text.digitsValue exponent.digits.text : Int)
  else Text.digitsValue exponent.digits.text

end Exponent

/-- A number of JSON text, taken apart. -/
structure Decimal where
  negative : Bool
  whole : Digits
  fraction? : Option Digits
  exponent? : Option Exponent
  unpadded : whole.text = ['0'] ∨ whole.text.head? ≠ some '0'

namespace Decimal

def pointed (decimal : Decimal) : Text :=
  decimal.fraction?.elim [] ('.' :: ·.text)

/-- The exponent as it is written, if it is there. -/
def tail (decimal : Decimal) : Text :=
  decimal.exponent?.elim [] (·.text)

/-- A number as it is written behind its sign. -/
def unsigned (decimal : Decimal) : Text :=
  decimal.whole.text ++ (decimal.pointed ++ decimal.tail)

/-- A number as it is written. -/
def text (decimal : Decimal) : Text :=
  if decimal.negative then '-' :: decimal.unsigned else decimal.unsigned

/-- What a number stands for: an integer if it has neither a point nor an exponent, and else the
double nearest to it. -/
def item (decimal : Decimal) : Json :=
  match decimal.fraction?, decimal.exponent? with
  | none, none =>
    .integer (if decimal.negative then -(Text.digitsValue decimal.whole.text : Int)
      else Text.digitsValue decimal.whole.text)
  | fraction?, exponent? =>
    .double (Numeral.toFloat ⟨decimal.negative, decimal.whole.text, fraction?.elim [] (·.text),
      exponent?.elim 0 (·.value)⟩)

end Decimal

/-! ## Reading a number -/

section Reading

variable {rest : Text}

theorem Digits.exists_cons (digits : Digits) :
    ∃ first others, digits.text = first :: others ∧ first.isDigit = true := by
  cases written : digits.text with
  | nil => exact absurd written digits.spoken
  | cons first others =>
    exact ⟨first, others, rfl, digits.decimal first (written ▸ List.mem_cons_self)⟩

theorem Digits.takeSign_append (digits : Digits) (rest : Text) :
    Numeral.takeSign (digits.text ++ rest) = (false, digits.text ++ rest) := by
  rcases digits.exists_cons with ⟨first, others, written, digit⟩
  rw [written, List.cons_append, Numeral.takeSign]
  all_goals
    intro _ same
    cases same
    cases digit

theorem Exponent.readExponent_append (exponent : Exponent) (ends : EndsNumber rest) :
    readExponent (exponent.text ++ rest) = (some exponent.value, rest) := by
  rcases exponent with ⟨mark, sign, digits, marked, signed⟩
  have taken := takeDigits_append digits.decimal fun char next => (ends char next).1
  have unsigned : Numeral.takeSign (sign ++ (digits.text ++ rest)) =
      (decide (sign = ['-']), digits.text ++ rest) := by
    rcases signed with rfl | rfl | rfl
    · exact digits.takeSign_append rest
    · rfl
    · rfl
  simp only [text, List.cons_append, List.append_assoc, readExponent, if_pos marked, unsigned,
    taken, value]
  split
  next none => exact absurd (Prod.ext_iff.mp none).1 digits.spoken
  next found =>
    cases found
    simp

namespace Decimal

variable (decimal : Decimal)

/-- Behind the point and its digits, a number ends or has an exponent. -/
theorem head_tail (ends : EndsNumber rest) :
    ∀ char ∈ (decimal.tail ++ rest).head?, char.isDigit = false ∧ char ≠ '.' := by
  cases scaled : decimal.exponent? with
  | none =>
    rw [tail, scaled]
    exact fun char next => ⟨(ends char next).1, (ends char next).2.1⟩
  | some exponent =>
    rw [tail, scaled]
    rintro char next
    obtain rfl : exponent.mark = char := by simpa [Exponent.text] using next
    rcases exponent.marked with mark | mark <;> rw [mark] <;> decide

/-- Behind its first digits, a number has no digit. -/
theorem head_pointed (ends : EndsNumber rest) :
    ∀ char ∈ (decimal.pointed ++ (decimal.tail ++ rest)).head?, char.isDigit = false := by
  cases fractional : decimal.fraction? with
  | none =>
    rw [pointed, fractional]
    exact fun char next => (decimal.head_tail ends char next).1
  | some fraction =>
    rw [pointed, fractional]
    rintro char next
    obtain rfl : '.' = char := by simpa using next
    decide

theorem readFraction_append (ends : EndsNumber rest) :
    readFraction (decimal.pointed ++ (decimal.tail ++ rest)) =
      (decimal.fraction?.elim [] (·.text), decimal.tail ++ rest) := by
  have behind := decimal.head_tail ends
  rw [pointed]
  cases decimal.fraction? with
  | none =>
    change readFraction (decimal.tail ++ rest) = ([], decimal.tail ++ rest)
    generalize decimal.tail ++ rest = text at behind
    cases text with
    | nil => rfl
    | cons char text => simp [readFraction, (behind char rfl).2]
  | some fraction =>
    have taken := takeDigits_append fraction.decimal fun char next => (behind char next).1
    simp only [Option.elim_some, List.cons_append, readFraction, taken]
    split
    next none => exact absurd (Prod.ext_iff.mp none).1 fraction.spoken
    next => rfl

theorem readExponent_append (ends : EndsNumber rest) :
    readExponent (decimal.tail ++ rest) = (decimal.exponent?.map (·.value), rest) := by
  rw [tail]
  cases decimal.exponent? with
  | none => exact ends.readExponent
  | some exponent => exact exponent.readExponent_append ends

/-- An integer that has a double is not too long to be read. -/
theorem length_le_digitLimit {number : Float} (small : decimal.item.number? = some number)
    (integer : decimal.fraction? = none ∧ decimal.exponent? = none) :
    decimal.whole.text.length ≤ digitLimit := by
  have small : Number.ofInteger? (if decimal.negative
      then -(Text.digitsValue decimal.whole.text : Int)
      else Text.digitsValue decimal.whole.text) = some number := by
    simpa [item, integer, number?] using small
  -- A longer integer without idle zeros would lie beyond the doubles.
  by_contra long
  rcases decimal.unpadded with zero | leading
  · simp [zero, digitLimit] at long
  · rcases decimal.whole.exists_cons with ⟨first, others, written, digit⟩
    rw [written, List.head?_cons, ne_eq, Option.some.injEq] at leading
    rw [written, List.length_cons, digitLimit] at long
    have nonzero : Text.digit? first ≠ some 0 := by
      have range := Number.toNat_of_isDigit digit
      have other : first.toNat ≠ 48 := fun same => leading (Char.toNat_inj.mp same)
      simp [Text.digit?, range.2.trans_lt (by decide : 57 < 128), digit]
      omega
    have large := @Magnitude.pow_le_digitsValue first others (isDigit_of_ascii digit) nonzero
    rw [← written] at large
    rw [Number.ofInteger?_eq_none (by omega) large] at small
    cases small

theorem readNumber_append {number : Float} (small : decimal.item.number? = some number)
    (ends : EndsNumber rest) :
    readNumber decimal.negative (decimal.unsigned ++ rest) = some (decimal.item, rest) := by
  have whole := readWhole?_append decimal.whole.decimal decimal.whole.spoken decimal.unpadded
    (decimal.head_pointed ends)
  have short := decimal.length_le_digitLimit small
  simp only [unsigned, List.append_assoc, readNumber, whole, Option.bind_eq_bind, Option.bind_some,
    decimal.readFraction_append ends, decimal.readExponent_append ends, item]
  cases fractional : decimal.fraction? with
  | none =>
    cases scaled : decimal.exponent? with
    | none => simp [short ⟨fractional, scaled⟩, guard]
    | some exponent => simp
  | some fraction =>
    have spoken : fraction.text.isEmpty = false := by simp [fraction.spoken]
    cases decimal.exponent? <;> simp [spoken]

theorem readScalar_append {number : Float} (small : decimal.item.number? = some number)
    (ends : EndsNumber rest) :
    readScalar (decimal.text ++ rest) = some (decimal.item, rest) := by
  have read := decimal.readNumber_append small ends
  rcases decimal.whole.exists_cons with ⟨first, others, written, digit⟩
  rw [unsigned, written, List.cons_append, List.cons_append] at read
  rw [text, unsigned, written, List.cons_append]
  cases sign : decimal.negative with
  | false =>
    rw [sign] at read
    exact (readScalar_digit digit _).trans read
  | true =>
    rw [sign] at read
    exact (readScalar_minus digit _).trans read

/-- A number begins with a digit or with its sign. -/
theorem exists_cons_text :
    ∃ first others, decimal.text = first :: others ∧ (first.isDigit = true ∨ first = '-') := by
  rcases decimal.whole.exists_cons with ⟨first, others, written, digit⟩
  rw [text, unsigned, written]
  cases decimal.negative with
  | false => exact ⟨first, _, rfl, .inl digit⟩
  | true => exact ⟨'-', _, rfl, .inr rfl⟩

theorem begins : Begins decimal.text := by
  rcases decimal.exists_cons_text with ⟨first, others, written, digit | rfl⟩
  · have known : ∀ mark ∈ [' ', '\t', '\n', '\r', ']', '\x7d'], mark.isDigit = false := by simp
    exact ⟨first, others, written, fun member => by simp [known first member] at digit⟩
  · exact ⟨'-', others, written, by decide⟩

theorem readValue_append {number : Float} (small : decimal.item.number? = some number)
    (ends : EndsNumber rest) (fuel depth : Nat) :
    readValue (fuel + 1) depth (decimal.text ++ rest) = some (decimal.item, rest) := by
  have read := decimal.readScalar_append small ends
  rcases decimal.exists_cons_text with ⟨first, others, written, opens⟩
  have scalar : first ∉ ['"', '[', '\x7b'] := by
    rcases opens with digit | rfl
    · have known : ∀ mark ∈ ['"', '[', '\x7b'], mark.isDigit = false := by simp
      exact fun member => by simp [known first member] at digit
    · decide
  rw [written, List.cons_append] at read ⊢
  exact (readValue_scalar scalar fuel depth _).trans read

end Decimal

end Reading

/-! ## Arrays -/

/-- How the items of an array are written on a line, with the bracket behind them. -/
inductive WritesItems : Text → List Float → Prop where
  | last {before behind : Text} {decimal : Decimal} {number : Float} (hidden : IsGap before)
      (small : decimal.item.number? = some number) (hiddenToo : IsGap behind) :
      WritesItems (before ++ (decimal.text ++ (behind ++ [']']))) [number]
  | more {before behind rest : Text} {decimal : Decimal} {number : Float} {numbers : List Float}
      (hidden : IsGap before) (small : decimal.item.number? = some number)
      (hiddenToo : IsGap behind) (items : WritesItems rest numbers) :
      WritesItems (before ++ (decimal.text ++ (behind ++ ',' :: rest))) (number :: numbers)

inductive WritesArray : Text → List Float → Prop where
  | empty {gap : Text} (hidden : IsGap gap) : WritesArray ('[' :: (gap ++ [']'])) []
  | filled {text : Text} {numbers : List Float} (items : WritesItems text numbers) :
      WritesArray ('[' :: text) numbers

theorem skipSpace_gap {gap : Text} (hidden : IsGap gap) (rest : Text) :
    skipSpace (gap ++ rest) = skipSpace rest := by
  refine List.dropWhile_append_of_pos fun char member => ?_
  rcases hidden char member with rfl | rfl <;> decide

theorem endsNumber_gap {gap : Text} (hidden : IsGap gap) {closer : Char}
    (closing : closer ∈ [',', ']', '\x7d']) (rest : Text) : EndsNumber (gap ++ closer :: rest) := by
  cases gap with
  | nil => exact (closes_cons closing rest).ends
  | cons first gap =>
    rintro char ⟨⟩
    rcases hidden first List.mem_cons_self with rfl | rfl <;> decide

variable {text : Text} {numbers : List Float}

theorem WritesItems.exists_begins (writes : WritesItems text numbers) :
    ∃ front rest, skipSpace text = front ++ rest ∧ Begins front := by
  cases writes with
  | last hidden _ _ | more hidden _ _ _ =>
    exact ⟨_, _, (skipSpace_gap hidden _).trans (skipSpace_of_begins (Decimal.begins _) _),
      Decimal.begins _⟩

theorem WritesItems.exists_readItems (writes : WritesItems text numbers) :
    ∃ items, items.map number? = numbers.map some ∧ ∀ fuel depth, text.length < fuel →
      readItems fuel depth (skipSpace text) = some (items, []) := by
  induction writes with
  | @last before behind decimal number hidden small hiddenToo =>
    refine ⟨[decimal.item], by simp [small], fun fuel depth enough => ?_⟩
    simp only [List.length_append, List.length_cons] at enough
    obtain ⟨fuel, rfl⟩ : ∃ less, fuel = less + 2 := ⟨fuel - 2, by omega⟩
    have ends := endsNumber_gap hiddenToo (show ']' ∈ [',', ']', '\x7d'] by decide) []
    rw [skipSpace_gap hidden, skipSpace_of_begins decimal.begins]
    simp only [readItems, decimal.readValue_append small ends, skipSpace_gap hiddenToo,
      skipSpace_of_ne ']' (by decide)]
  | @more before behind rest decimal number numbers hidden small hiddenToo _ ih =>
    rcases ih with ⟨items, same, read⟩
    refine ⟨decimal.item :: items, by simp [small, same], fun fuel depth enough => ?_⟩
    simp only [List.length_append, List.length_cons] at enough
    obtain ⟨fuel, rfl⟩ : ∃ less, fuel = less + 2 := ⟨fuel - 2, by omega⟩
    have ends := endsNumber_gap hiddenToo (show ',' ∈ [',', ']', '\x7d'] by decide) rest
    rw [skipSpace_gap hidden, skipSpace_of_begins decimal.begins, readItems]
    simp only [decimal.readValue_append small ends, skipSpace_gap hiddenToo,
      skipSpace_of_ne ',' (by decide), read (fuel + 1) depth (by omega), Option.map_some]

theorem WritesArray.read?_eq_some (writes : WritesArray text numbers) :
    ∃ items, read? text = some (.array items) ∧ items.map number? = numbers.map some := by
  have opened (inside : Text) : skipSpace ('[' :: inside) = '[' :: inside :=
    skipSpace_of_ne '[' (by decide) inside
  cases writes with
  | empty hidden =>
    have closed : skipSpace (_ ++ [']']) = [']'] :=
      (skipSpace_gap hidden _).trans (skipSpace_of_ne ']' (by decide) [])
    refine ⟨[], ?_, rfl⟩
    simp only [read?, opened, nestingLimit, readValue, closed]
    rfl
  | @filled inside _ items =>
    rcases items.exists_readItems with ⟨found, same, read⟩
    rcases items.exists_begins with ⟨front, rest, skipped, begins⟩
    have filled : ∀ behind, skipSpace inside ≠ ']' :: behind := by
      rw [skipped, ← skipSpace_of_begins begins]
      exact (begins.filled rest).1
    refine ⟨found, ?_, same⟩
    -- The array is not closed at once (`filled`), so the reader goes on to the items.
    have value : readValue (2 * ('[' :: inside).length + 2) nestingLimit ('[' :: inside) =
        some (.array found, []) := by
      simp only [nestingLimit, readValue]
      rw [read _ _ (by rw [List.length_cons]; omega), Option.map_some]
    simp only [read?, opened, value]
    rfl

/-! ## Characters -/

/-- The characters with which arrays of numbers are written, besides digits. -/
def arrayMarks : List Char :=
  ['[', ']', ',', '.', 'e', 'E', '+', '-', ' ', '\t']

/-- There are only digits and the marks of arrays in the text. -/
def Legible (text : Text) : Prop :=
  ∀ char ∈ text, char.isDigit = true ∨ char ∈ arrayMarks

namespace Legible

variable {rest : Text}

theorem append (front : Legible text) (behind : Legible rest) : Legible (text ++ rest) :=
  List.forall_mem_append.mpr ⟨front, behind⟩

theorem cons {mark : Char} (known : mark ∈ arrayMarks) (behind : Legible rest) :
    Legible (mark :: rest) :=
  List.forall_mem_cons.mpr ⟨.inr known, behind⟩

theorem of_gap {gap : Text} (hidden : IsGap gap) : Legible gap := by
  intro char member
  rcases hidden char member with rfl | rfl <;> exact .inr (by decide)

theorem notMem (legible : Legible text) {other : Char} (noDigit : other.isDigit = false)
    (unmarked : other ∉ arrayMarks) : other ∉ text := by
  intro member
  rcases legible other member with digit | mark
  · simp [noDigit] at digit
  · exact unmarked mark

end Legible

theorem Digits.legible (digits : Digits) : Legible digits.text :=
  fun char member => .inl (digits.decimal char member)

theorem Exponent.legible (exponent : Exponent) : Legible exponent.text := by
  have signed : Legible exponent.sign := by
    rcases exponent.signed with sign | sign | sign <;> simp [sign, Legible, arrayMarks]
  refine .cons ?_ (signed.append exponent.digits.legible)
  rcases exponent.marked with mark | mark <;> simp [mark, arrayMarks]

theorem Decimal.legible (decimal : Decimal) : Legible decimal.text := by
  have pointed : Legible decimal.pointed := by
    rw [Decimal.pointed]
    cases decimal.fraction? with
    | none => exact List.forall_mem_nil _
    | some fraction => exact .cons (by decide) fraction.legible
  have tail : Legible decimal.tail := by
    rw [Decimal.tail]
    cases decimal.exponent? with
    | none => exact List.forall_mem_nil _
    | some exponent => exact exponent.legible
  have unsigned := decimal.whole.legible.append (pointed.append tail)
  rw [Decimal.text]
  split
  · exact .cons (by decide) unsigned
  · exact unsigned

theorem WritesItems.legible (writes : WritesItems text numbers) : Legible text := by
  induction writes with
  | last hidden _ hiddenToo =>
    have closed : Legible [']'] := .cons (by decide) (List.forall_mem_nil _)
    exact (Legible.of_gap hidden).append
      ((Decimal.legible _).append ((Legible.of_gap hiddenToo).append closed))
  | more hidden _ hiddenToo _ ih =>
    exact (Legible.of_gap hidden).append
      ((Decimal.legible _).append ((Legible.of_gap hiddenToo).append (.cons (by decide) ih)))

theorem WritesItems.exists_concat (writes : WritesItems text numbers) :
    ∃ inside, text = inside ++ [']'] := by
  induction writes with
  | @last before behind decimal => exact ⟨before ++ (decimal.text ++ behind), by simp⟩
  | @more before behind rest decimal _ _ _ _ _ _ ih =>
    rcases ih with ⟨inside, rfl⟩
    exact ⟨before ++ (decimal.text ++ (behind ++ ',' :: inside)), by simp⟩

namespace WritesArray

theorem legible (writes : WritesArray text numbers) : Legible text := by
  cases writes with
  | empty hidden =>
    have closed : Legible [']'] := .cons (by decide) (List.forall_mem_nil _)
    exact .cons (by decide) ((Legible.of_gap hidden).append closed)
  | filled items => exact .cons (by decide) items.legible

theorem exists_brackets (writes : WritesArray text numbers) :
    ∃ inside, text = '[' :: (inside ++ [']']) := by
  cases writes with
  | empty => exact ⟨_, rfl⟩
  | filled items =>
    rcases items.exists_concat with ⟨inside, rfl⟩
    exact ⟨inside, rfl⟩

theorem trimStart_eq (writes : WritesArray text numbers) : Text.trimStart text = text := by
  rcases writes.exists_brackets with ⟨inside, rfl⟩
  rfl

/-- An array ends with a character that stays when blanks and semicolons are dropped. -/
theorem dropEnd_eq (writes : WritesArray text numbers) {drops : Char → Bool}
    (kept : drops ']' = false) : Text.dropEnd drops text = text := by
  rcases writes.exists_brackets with ⟨inside, rfl⟩
  exact Text.dropEnd_concat kept ('[' :: inside)

theorem getLast?_eq (writes : WritesArray text numbers) : text.getLast? = some ']' := by
  rcases writes.exists_brackets with ⟨inside, rfl⟩
  exact List.getLast?_append_of_ne_nil ('[' :: inside) (List.cons_ne_nil ']' [])

theorem unslashed (writes : WritesArray text numbers) : ∀ char ∈ text, char ≠ '/' := by
  rintro char member rfl
  exact writes.legible.notMem (by decide) (by decide) member

theorem stripStatement_eq (writes : WritesArray text numbers) : stripStatement text = text :=
  Form.stripStatement_eq writes.trimStart_eq (.of_plain writes.unslashed)
    (writes.dropEnd_eq (by decide))

def expression (writes : WritesArray text numbers) : Form.Expression where
  text := text
  spoken := by
    rcases writes.exists_brackets with ⟨inside, rfl⟩
    exact List.cons_ne_nil _ _
  trimmed := by
    rw [Text.trim, writes.trimStart_eq]
    exact writes.dropEnd_eq (by decide)
  oneLine := writes.legible.notMem (by decide) (by decide)
  uncommented := fun ⟨front, behind, marker⟩ =>
    writes.unslashed '/' (by simp [← marker]) rfl
  unended := by simp [writes.getLast?_eq]

theorem literal_read? (writes : WritesArray text numbers) :
    Literal.read? text = .ok (some (.array (numbers.map .number))) := by
  rcases writes.read?_eq_some with ⟨items, read, same⟩
  have each : items.all Literal.isNumber = true := by
    rw [List.all_eq_true]
    intro item member
    have known : item.number? ∈ numbers.map some := same ▸ List.mem_map_of_mem member
    rcases List.mem_map.mp known with ⟨number, -, found⟩
    cases item with
    | integer | double => rfl
    | _ => cases found
  have bracketed : text.head? = some '[' ∧ text.getLast? = some ']' := by
    refine ⟨?_, writes.getLast?_eq⟩
    rcases writes.exists_brackets with ⟨inside, rfl⟩
    rfl
  have array : Literal.readArray text = .ok (.array (numbers.map .number)) := by
    simp [Literal.readArray, read, each, Literal.cells_eq same, Except.map]
  rw [Literal.read?]
  simp only [writes.stripStatement_eq, Literal.numeral_eq_none bracketed.1, if_pos bracketed,
    array]
  rfl

end WritesArray

end StepScript.Json

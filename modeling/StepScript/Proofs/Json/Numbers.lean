import StepScript.Literal
import StepScript.Proofs.Expression.Numeral

/-!
# Arrays of numbers as expressions

JSON text that holds an array of numbers is an expression, too: each item is spelled as one token
behind a sign, or without one.  What the items have as values are the numbers that the text is read
as, except that the integer zero loses its sign.
-/

namespace StepScript

open StepScript.Lexer StepScript.Parser StepScript.Expr

namespace Json

variable {text rest digits fraction : Text} {negative : Bool} {item : Json}

/-! ## Reading numbers -/

theorem takeDigits_eq (taken : takeDigits text = (digits, rest)) :
    text = digits ++ rest ∧ ∀ char ∈ digits, char.isDigit = true := by
  cases taken
  exact ⟨List.takeWhile_append_dropWhile.symm, fun _ member => List.mem_takeWhile_imp member⟩

/-- The digits in front of the point have no idle zeros. -/
theorem readWhole?_eq_some (read : readWhole? text = some (digits, rest)) :
    text = digits ++ rest ∧ (∀ char ∈ digits, char.isDigit = true) ∧ digits ≠ [] ∧
      (digits = ['0'] ∨ digits.head? ≠ some '0') := by
  unfold readWhole? at read
  split at read
  · cases read
    exact ⟨rfl, by simp, by simp, .inl rfl⟩
  · rename_i noZero
    split at read
    · cases read
    · rename_i spoken
      have taken := takeDigits_eq (Option.some.inj read)
      refine ⟨taken.1, taken.2, ?_, .inr ?_⟩
      · rintro rfl
        exact spoken _ (Option.some.inj read)
      · intro zero
        rcases List.head?_eq_some_iff.mp zero with ⟨others, rfl⟩
        exact noZero _ taken.1

theorem readFraction_cases (read : readFraction text = (fraction, rest)) :
    (fraction = [] ∧ rest = text) ∨
      (fraction ≠ [] ∧ text = '.' :: fraction ++ rest ∧
        ∀ char ∈ fraction, char.isDigit = true) := by
  unfold readFraction at read
  split at read
  · split at read
    · cases read
      exact .inl ⟨rfl, rfl⟩
    · rename_i spoken
      have taken := takeDigits_eq read
      refine .inr ⟨?_, by rw [taken.1]; rfl, taken.2⟩
      rintro rfl
      exact spoken _ read
  · cases read
    exact .inl ⟨rfl, rfl⟩

theorem readExponent_cases {exponent? : Option Int} (read : readExponent text = (exponent?, rest)) :
    (exponent? = none ∧ rest = text) ∨ ∃ exponent tail, exponent? = some exponent ∧ tail ≠ [] ∧
      text = tail ++ rest ∧ Numeral.readExponent? tail = some exponent ∧
        ∀ char ∈ tail, char.toNat < 128 := by
  unfold readExponent at read
  split at read
  case h_2 =>
    cases read
    exact .inl ⟨rfl, rfl⟩
  rename_i mark others
  split at read
  case isFalse =>
    cases read
    exact .inl ⟨rfl, rfl⟩
  rename_i marked
  rcases signed : Numeral.takeSign others with ⟨negative, unsigned⟩
  simp only [signed] at read
  split at read
  · cases read
    exact .inl ⟨rfl, rfl⟩
  · rename_i digits behind spoken taken
    cases read
    rcases takeDigits_eq taken with ⟨rfl, each⟩
    have spoken : digits ≠ [] := spoken
    have small (char : Char) (digit : char ∈ digits) : char.toNat < 128 :=
      (Number.toNat_of_isDigit (each char digit)).2.trans_lt (by decide)
    have ascii : mark.toNat < 128 := by rcases marked with rfl | rfl <;> decide
    have digital : digits.all Text.isDigit = true :=
      List.all_eq_true.mpr fun char member => isDigit_of_ascii (each char member)
    have scaled (tail : Text) (alone : Numeral.takeSign tail = (negative, digits)) :
        Numeral.readExponent? (mark :: tail) =
          some (if negative then -(Text.digitsValue digits : Int)
            else Text.digitsValue digits) := by
      simp [Numeral.readExponent?, alone, marked, spoken, digital]
    right
    rcases Numeral.takeSign_cases signed with ⟨rfl, rfl⟩ | ⟨rfl, rfl⟩ | ⟨rfl, rfl⟩
    · exact ⟨_, mark :: '-' :: digits, rfl, by simp, rfl, scaled _ rfl,
        by simpa [ascii] using small⟩
    · exact ⟨_, mark :: '+' :: digits, rfl, by simp, rfl, scaled _ rfl,
        by simpa [ascii] using small⟩
    · have unsigned : Numeral.takeSign digits = (false, digits) := by
        unfold Numeral.takeSign
        split
        · exact absurd (each '-' List.mem_cons_self) (by decide)
        · exact absurd (each '+' List.mem_cons_self) (by decide)
        · rfl
      exact ⟨_, mark :: digits, rfl, by simp, rfl, scaled _ unsigned,
        by simpa [ascii] using small⟩

/-- How a number of JSON text is written behind its sign. -/
structure IsWritten (magnitude : Magnitude) (negative : Bool) (item : Json) : Prop where
  ascii : ∀ char ∈ magnitude.text, char.toNat < 128
  unpadded : magnitude.isPadded = false
  plain : magnitude.kind.isPlain = true
  denotes : item =
    if magnitude.isInteger then
      .integer (if negative then -(Text.digitsValue magnitude.whole : Int)
        else Text.digitsValue magnitude.whole)
    else .double (magnitude.numeral negative).toFloat

theorem IsWritten.double {magnitude : Magnitude}
    (ascii : ∀ char ∈ magnitude.text, char.toNat < 128) (broken : magnitude.isInteger = false) :
    IsWritten magnitude negative (.double (magnitude.numeral negative).toFloat) where
  ascii := ascii
  unpadded := by simp [Magnitude.isPadded, broken]
  plain := by simp [Magnitude.kind, broken, TokenKind.isPlain]
  denotes := by simp [broken]

theorem readNumber_eq_some (read : readNumber negative text = some (item, rest)) :
    ∃ magnitude : Magnitude, text = magnitude.text ++ rest ∧ IsWritten magnitude negative item := by
  simp only [readNumber, Option.bind_eq_bind, Option.bind_eq_some_iff] at read
  rcases read with ⟨⟨whole, behindWhole⟩, readWhole, read⟩
  rcases fractional : readFraction behindWhole with ⟨fraction, behindFraction⟩
  rcases exponential : readExponent behindFraction with ⟨exponent?, behind⟩
  simp only [fractional, exponential] at read
  rcases readWhole?_eq_some readWhole with ⟨rfl, ascii, spoken, unpadded⟩
  have small {digits : Text} (each : ∀ char ∈ digits, char.isDigit = true) (char : Char)
      (member : char ∈ digits) : char.toNat < 128 :=
    (Number.toNat_of_isDigit (each char member)).2.trans_lt (by decide)
  have digital {digits : Text} (each : ∀ char ∈ digits, char.isDigit = true) (char : Char)
      (member : char ∈ digits) : Text.isDigit char = true := isDigit_of_ascii (each char member)
  rcases readFraction_cases fractional with ⟨rfl, rfl⟩ | ⟨pointed, rfl, each⟩ <;>
    rcases readExponent_cases exponential with ⟨rfl, rfl⟩ |
      ⟨exponent, tail, rfl, nonempty, rfl, scaled, low⟩
  · simp only [List.isEmpty_nil, Option.isNone_none, Bool.and_self, if_true,
      Option.bind_eq_some_iff, Option.guard_eq_some', Option.pure_def, Option.some.injEq] at read
    rcases read with ⟨_, short, same⟩
    cases same
    refine ⟨⟨whole, none, [], 0, by simpa using digital ascii, by simpa using spoken, rfl⟩,
      by simp [Magnitude.text, Magnitude.pointed], ?_, ?_, ?_, ?_⟩
    · simpa [Magnitude.text, Magnitude.pointed] using small ascii
    · rcases unpadded with rfl | leading
      · rfl
      · simp [Magnitude.isPadded, leading]
    · have few : ¬Lexer.digitLimit < whole.length := not_lt.mpr short
      simp [Magnitude.kind, Magnitude.isInteger, few, TokenKind.isPlain]
    · simp [Magnitude.isInteger]
  · cases read
    refine ⟨⟨whole, none, tail, exponent, by simpa using digital ascii, by simpa using spoken,
      scaled⟩, by simp [Magnitude.text, Magnitude.pointed], .double ?_ ?_⟩
    · simpa [Magnitude.text, Magnitude.pointed, or_imp, forall_and] using ⟨small ascii, low⟩
    · simpa [Magnitude.isInteger] using nonempty
  · have broken : fraction.isEmpty = false := by simpa using pointed
    simp only [broken, Bool.false_and, Bool.false_eq_true, if_false, Option.pure_def] at read
    cases read
    refine ⟨⟨whole, some fraction, [], 0, ?_, by simp [spoken], rfl⟩,
      by simp [Magnitude.text, Magnitude.pointed], .double ?_ rfl⟩
    · exact fun char => List.forall_mem_append.mpr ⟨digital ascii, digital each⟩ char
    · simpa [Magnitude.text, Magnitude.pointed, or_imp, forall_and] using
        ⟨small ascii, small each⟩
  · have broken : fraction.isEmpty = false := by simpa using pointed
    simp only [broken, Bool.false_and, Bool.false_eq_true, if_false, Option.pure_def] at read
    cases read
    refine ⟨⟨whole, some fraction, tail, exponent, ?_, by simp [spoken], scaled⟩,
      by simp [Magnitude.text, Magnitude.pointed], .double ?_ rfl⟩
    · exact fun char => List.forall_mem_append.mpr ⟨digital ascii, digital each⟩ char
    · simpa [Magnitude.text, Magnitude.pointed, or_imp, forall_and] using
        ⟨small ascii, small each, low⟩

/-- The number that an item of an array of numbers is read as. -/
def number? : Json → Option Float
  | .integer value => Number.ofInteger? value
  | .double value => some value
  | _ => none

end Json

namespace Number

/-- What is read is the number itself, or zero in place of the negative zero. -/
def Matches (number found : Float) : Prop :=
  found = number ∨ number = -0 ∧ found = 0

theorem exists_ofInteger?_neg {count : Nat} {number : Float}
    (small : ofInteger? count = some number) :
    ∃ found, ofInteger? (-(count : Int)) = some found ∧ Matches (-number) found := by
  simp only [ofInteger?] at small
  split at small
  · cases small
  rename_i finite
  cases small
  have finite : (Float.ofNat count).isInf = false := Bool.eq_false_iff.mpr finite
  cases count with
  | zero =>
    refine ⟨Float.ofNat 0, ?_, .inr ⟨rfl, rfl⟩⟩
    change (if (Float.ofNat 0).isInf then none else some (Float.ofNat 0)) = _
    rw [finite]
    rfl
  | succ count =>
    refine ⟨-Float.ofNat (count + 1), ?_, .inl rfl⟩
    change (if (-Float.ofNat (count + 1)).isInf then none else some (-Float.ofNat (count + 1))) = _
    rw [isInf_neg finite]
    rfl

end Number

/-- Whatever value a tree has, it is the number that an item is read as, except for the sign of a
zero. -/
def Denotes (environment : Environment) (item : Json) (tree : Tree) : Prop :=
  ∀ source room value, tree.evaluate environment source room = .ok value →
    ∃ number found, value = .number number ∧ item.number? = some found ∧
      Number.Matches number found

namespace Json.IsWritten

variable {magnitude : Magnitude} {item : Json} {environment : Environment}

theorem denotes_leaf (written : IsWritten magnitude false item) :
    Denotes environment item magnitude.leaf := by
  intro source room value evaluated
  refine ⟨_, _, Magnitude.evaluate_leaf evaluated, ?_, .inl rfl⟩
  rw [written.denotes]
  cases integer : magnitude.isInteger with
  | true => exact (Magnitude.ofInteger?_of_evaluate integer evaluated).1
  | false => rfl

theorem denotes_unary (written : IsWritten magnitude true item) :
    Denotes environment item (.unary default Sign.minus.operator magnitude.leaf) := by
  intro source room value evaluated
  have same := evaluate_sign (fun room value => Magnitude.evaluate_leaf) evaluated
  rcases Tree.exists_value_of_child evaluated List.mem_cons_self with ⟨below, inner, found⟩
  rw [written.denotes]
  cases integer : magnitude.isInteger with
  | true =>
    rcases Number.exists_ofInteger?_neg (Magnitude.ofInteger?_of_evaluate integer found).1 with
      ⟨number, small, matching⟩
    exact ⟨_, number, same, small, matching⟩
  | false => exact ⟨_, _, same, rfl, .inl rfl⟩

end Json.IsWritten

/-! ## Names of numbers -/

namespace Expr.Identifier

def notANumber : Identifier :=
  ⟨'N', ['a', 'N'], by decide, by simp, by decide⟩

def infinity : Identifier :=
  ⟨'I', ['n', 'f', 'i', 'n', 'i', 't', 'y'], by decide, by simp, by decide⟩

end Expr.Identifier

/-- The words that JSON text knows as numbers are no variables, as far as they occur. -/
def Unnamed (environment : Environment) (text : Text) : Prop :=
  ∀ word ∈ [Identifier.notANumber, .infinity], word.text <:+: text →
    Environment.find? word.text environment = none

theorem Unnamed.mono {environment : Environment} {text part : Text}
    (unnamed : Unnamed environment text) (inside : part <:+: text) : Unnamed environment part :=
  fun word known among => unnamed word known (among.trans inside)

/-- What is no variable has no value. -/
theorem evaluate_unnamed {environment : Environment} {word : Identifier}
    (known : word ∈ [Identifier.notANumber, .infinity])
    (absent : Environment.find? word.text environment = none) (source : Text) (room : Nat)
    (value : Value) :
    Tree.evaluate environment source room (.name default word.text) ≠ .ok value := by
  have untrue : word.text ≠ "true".toList ∧ word.text ≠ "false".toList := by
    simp only [List.mem_cons, List.not_mem_nil, or_false] at known
    rcases known with rfl | rfl <;> decide
  intro found
  rcases Tree.exists_room_of_evaluate found with ⟨room, rfl⟩
  rw [Tree.evaluate, Tree.lookUp, absent] at found
  simp only [untrue, if_false] at found
  cases found

namespace Json

variable {environment : Environment} {text rest : Text} {item : Json}

/-- A number of JSON text is a word, with a sign or without one, or is made of digits. -/
theorem readScalar_cases (read : readScalar text = some (item, rest))
    (number : Literal.isNumber item = true) :
    (∃ word ∈ [Identifier.notANumber, .infinity], text = word.text ++ rest) ∨
      text = '-' :: Identifier.infinity.text ++ rest ∨
      (∃ digits, text = '-' :: digits ∧ readNumber true digits = some (item, rest)) ∨
      readNumber false text = some (item, rest) := by
  unfold readScalar at read
  dsimp only at read
  split at read
  · cases read
  · rcases Option.map_eq_some_iff.mp read with ⟨_, _, same⟩
    cases same
    cases number
  · rcases Option.map_eq_some_iff.mp read with ⟨_, _, same⟩
    cases same
    cases number
  · rcases Option.map_eq_some_iff.mp read with ⟨_, _, same⟩
    cases same
    cases number
  · rcases Option.map_eq_some_iff.mp read with ⟨_, found, same⟩
    cases same
    exact .inl ⟨.notANumber, List.mem_cons_self, Text.eq_append_of_after? found⟩
  · rcases Option.map_eq_some_iff.mp read with ⟨_, found, same⟩
    cases same
    exact .inl ⟨.infinity, List.mem_cons_of_mem _ List.mem_cons_self,
      Text.eq_append_of_after? found⟩
  · rcases Option.map_eq_some_iff.mp read with ⟨_, found, same⟩
    cases same
    exact .inr (.inl (Text.eq_append_of_after? found))
  · exact .inr (.inr (.inl ⟨_, rfl, read⟩))
  · exact .inr (.inr (.inr read))

/-- The text up to the rest is spelled as an operand that denotes an item. -/
def SpelledBefore (environment : Environment) (rest text : Text) (item : Json) : Prop :=
  ∃ front tree, text = front ++ rest ∧ Spells .factor 0 front tree ∧ tree.depth ≤ 2 ∧
    Denotes environment item tree

theorem spelled_word {word : Identifier} (known : word ∈ [Identifier.notANumber, .infinity])
    (unnamed : Unnamed environment (word.text ++ rest)) :
    SpelledBefore environment rest (word.text ++ rest) item := by
  have absent := unnamed word known ⟨[], rest, rfl⟩
  exact ⟨word.text, _, rfl, (Spells.name word).mono (by decide) le_rfl, by simp [Tree.depth],
    fun source room value evaluated =>
      absurd evaluated (evaluate_unnamed known absent source room value)⟩

theorem spelled_negativeInfinity
    (unnamed : Unnamed environment ('-' :: Identifier.infinity.text ++ rest)) :
    SpelledBefore environment rest ('-' :: Identifier.infinity.text ++ rest) item := by
  have known : Identifier.infinity ∈ [Identifier.notANumber, .infinity] :=
    List.mem_cons_of_mem _ List.mem_cons_self
  have absent := unnamed .infinity known ⟨['-'], rest, rfl⟩
  have operand : Spells .factor 0 Identifier.infinity.text
      (.name default Identifier.infinity.text) :=
    (Spells.name .infinity).mono (by decide) le_rfl
  refine ⟨_, _, rfl, operand.unary .minus (by decide), by simp [Tree.depth],
    fun source room value evaluated => ?_⟩
  rcases Tree.exists_value_of_child evaluated List.mem_cons_self with ⟨below, inner, found⟩
  exact absurd found (evaluate_unnamed known absent source below inner)

theorem spelled_negative (read : readNumber true text = some (item, rest)) :
    SpelledBefore environment rest ('-' :: text) item := by
  rcases readNumber_eq_some read with ⟨magnitude, rfl, written⟩
  rcases magnitude.exists_cons_text with ⟨first, others, start, -⟩
  have spells := Magnitude.spells_of_ascii written.ascii written.unpadded written.plain
  have apart := Magnitude.apart_of_text start
  rw [start] at spells
  exact ⟨_, _, by rw [← List.cons_append, start]; rfl,
    (spells.mono (by decide) le_rfl).unary .minus apart,
    by simp [Tree.depth, Magnitude.depth_leaf], written.denotes_unary⟩

theorem spelled_number (read : readNumber false text = some (item, rest)) :
    SpelledBefore environment rest text item := by
  rcases readNumber_eq_some read with ⟨magnitude, rfl, written⟩
  have spells := Magnitude.spells_of_ascii written.ascii written.unpadded written.plain
  exact ⟨_, _, rfl, spells.mono (by decide) le_rfl, by simp [Magnitude.depth_leaf],
    written.denotes_leaf⟩

theorem exists_spelled (read : readScalar text = some (item, rest))
    (number : Literal.isNumber item = true) (unnamed : Unnamed environment text) :
    SpelledBefore environment rest text item := by
  rcases readScalar_cases read number with
    ⟨word, known, rfl⟩ | rfl | ⟨digits, rfl, negative⟩ | positive
  · exact spelled_word known unnamed
  · exact spelled_negativeInfinity unnamed
  · exact spelled_negative negative
  · exact spelled_number positive

/-! ## Arrays -/

/-- On a line, the space between the parts of JSON text is made of blanks. -/
theorem exists_gap (line : ∀ char ∈ text, char ≠ '\n' ∧ char ≠ '\r') :
    ∃ gap, text = gap ++ skipSpace text ∧ IsGap gap := by
  refine ⟨_, List.takeWhile_append_dropWhile.symm, fun char member => ?_⟩
  have space := List.mem_takeWhile_imp member
  have other := line char ((List.takeWhile_sublist _).subset member)
  simpa [other, or_assoc] using space

/-- No container is a number. -/
theorem readScalar_of_readValue {fuel depth : Nat}
    (read : readValue fuel depth text = some (item, rest))
    (number : Literal.isNumber item = true) : readScalar text = some (item, rest) := by
  unfold readValue at read
  split at read
  · cases read
  split at read
  · rcases Option.map_eq_some_iff.mp read with ⟨_, _, same⟩
    cases same
    cases number
  · split at read
    · cases read
    · cases read
      cases number
    · rcases Option.map_eq_some_iff.mp read with ⟨_, _, same⟩
      cases same
      cases number
  · split at read
    · cases read
    · cases read
      cases number
    · rcases Option.map_eq_some_iff.mp read with ⟨_, _, same⟩
      cases same
      cases number
  · exact read

theorem exists_items {fuel depth : Nat} {items : List Json}
    (read : readItems fuel depth text = some (items, rest))
    (numbers : ∀ item ∈ items, Literal.isNumber item = true)
    (line : ∀ char ∈ text, char ≠ '\n' ∧ char ≠ '\r') (unnamed : Unnamed environment text) :
    ∃ inner trees, text = inner ++ ']' :: rest ∧ SpellsItems 0 inner trees ∧
      (∀ tree ∈ trees, tree.depth ≤ 2) ∧ List.Forall₂ (Denotes environment) items trees := by
  induction fuel generalizing text items with
  | zero => cases read
  | succ fuel ih =>
    rw [readItems] at read
    split at read
    · cases read
    rename_i item behind value
    have gap (number : Literal.isNumber item = true) : ∃ front gap tree,
        text = front ++ (gap ++ skipSpace behind) ∧ Spells .named 0 front tree ∧ IsGap gap ∧
          tree.depth ≤ 2 ∧ Denotes environment item tree := by
      rcases exists_spelled (readScalar_of_readValue value number) number unnamed with
        ⟨front, tree, rfl, spells, shallow, denotes⟩
      rcases exists_gap fun char member => line char (List.mem_append_right _ member) with
        ⟨gap, split, hidden⟩
      exact ⟨front, gap, tree, by rw [← split], spells.mono (by decide) le_rfl, hidden, shallow,
        denotes⟩
    split at read
    · rename_i more next
      rcases Option.map_eq_some_iff.mp read with ⟨⟨others, behind'⟩, readMore, same⟩
      cases same
      rcases gap (numbers item List.mem_cons_self) with
        ⟨front, gap, tree, split, spells, hidden, shallow, denotes⟩
      rw [next] at split
      have inside : more <:+: text := ⟨front ++ (gap ++ [',']), [], by simp [split]⟩
      rcases exists_gap fun char member => line char (inside.subset member) with
        ⟨inner, splitMore, hiddenInner⟩
      have deeper : skipSpace more <:+: text :=
        (List.dropWhile_suffix _).isInfix.trans inside
      rcases ih readMore (fun item member => numbers item (List.mem_cons_of_mem _ member))
        (fun char member => line char (deeper.subset member)) (unnamed.mono deeper) with
        ⟨rest', trees, written, spelled, flat, denote⟩
      rw [written] at splitMore
      refine ⟨front ++ (gap ++ ',' :: (inner ++ rest')), tree :: trees, by simp [split, splitMore],
        .more spells hidden hiddenInner spelled, List.forall_mem_cons.mpr ⟨shallow, flat⟩,
        .cons denotes denote⟩
    · rename_i behind' closes
      cases read
      rcases gap (numbers item List.mem_cons_self) with
        ⟨front, gap, tree, split, spells, hidden, shallow, denotes⟩
      rw [closes] at split
      exact ⟨front ++ gap, [tree], by simp [split], .last spells hidden, by simpa using shallow,
        .cons denotes .nil⟩
    · cases read

theorem exists_list {items : List Json} (read : read? text = some (.array items))
    (numbers : ∀ item ∈ items, Literal.isNumber item = true)
    (bracketed : text.head? = some '[' ∧ text.getLast? = some ']')
    (line : ∀ char ∈ text, char ≠ '\n' ∧ char ≠ '\r') (unnamed : Unnamed environment text) :
    ∃ trees, Spells .atom 1 text (.list default trees) ∧ (∀ tree ∈ trees, tree.depth ≤ 2) ∧
      List.Forall₂ (Denotes environment) items trees := by
  rcases bracketed with ⟨opens, closes⟩
  rcases List.head?_eq_some_iff.mp opens with ⟨inside, rfl⟩
  have noRest (rest front : Text) (written : '[' :: inside = front ++ rest)
      (hidden : (skipSpace rest).isEmpty = true) : rest = [] := by
    by_contra spoken
    rw [written, List.getLast?_append_of_ne_nil _ spoken] at closes
    have space := List.dropWhile_eq_nil_iff.mp (List.isEmpty_iff.mp hidden) ']'
      (List.mem_of_getLast? closes)
    exact absurd space (by decide)
  have within : inside <:+: '[' :: inside := (List.suffix_cons _ _).isInfix
  rcases exists_gap fun char member => line char (within.subset member) with ⟨gap, split, hidden⟩
  unfold read? at read
  have start : skipSpace ('[' :: inside) = '[' :: inside := rfl
  rw [start] at read
  simp only [readValue, nestingLimit] at read
  split at read
  case h_2 => cases read
  rename_i rest found
  split at read
  case isFalse => cases read
  rename_i ended
  cases read
  split at found
  · cases found
  · rename_i behind closing
    cases found
    rw [closing] at split
    have last : rest = [] := noRest _ ('[' :: (gap ++ [']'])) (by simp [split]) ended
    rw [split, last]
    exact ⟨[], Spells.emptyList hidden, List.forall_mem_nil _, .nil⟩
  · rename_i depth _ same
    rcases Option.map_eq_some_iff.mp found with ⟨⟨_, behind⟩, readMore, same⟩
    cases same
    have deeper : skipSpace inside <:+: '[' :: inside :=
      (List.dropWhile_suffix _).isInfix.trans within
    rcases exists_items readMore numbers (fun char member => line char (deeper.subset member))
      (unnamed.mono deeper) with ⟨inner, trees, written, spelled, flat, denote⟩
    rw [written] at split
    have last : behind = [] := noRest _ ('[' :: (gap ++ inner ++ [']'])) (by simp [split]) ended
    rw [split, last]
    exact ⟨trees, by simpa using Spells.list hidden spelled, flat, denote⟩

end Json

namespace Literal

theorem cells_eq {items : List Json} {found : List Float}
    (each : items.map Json.number? = found.map some) :
    cells items = .ok (found.map .number) := by
  induction items generalizing found with
  | nil =>
    cases found with
    | nil => rfl
    | cons first found => cases each
  | cons item items ih =>
    cases found with
    | nil => cases each
    | cons first found =>
      rcases List.cons.inj each with ⟨here, behind⟩
      have rest := ih behind
      cases item with
      | integer value =>
        have small : Number.ofInteger? value = some first := here
        simp [cells, small, rest, Except.map]
      | double value =>
        cases here
        simp [cells, rest, Except.map]
      | _ => cases here

end Literal

/-- The items of a list have the numbers that the items of the array are read as. -/
theorem exists_numbers {environment : Environment} {items : List Json} {trees : List Tree}
    (denote : List.Forall₂ (Denotes environment) items trees) {source part : Text}
    {room : Nat} {cells : List Value}
    (evaluated : Tree.evaluateItems environment source part room trees = .ok cells) :
    ∃ numbers found, cells = numbers.map .number ∧ items.map Json.number? = found.map some ∧
      List.Forall₂ Number.Matches numbers found := by
  induction denote generalizing cells with
  | nil =>
    cases evaluated
    exact ⟨[], [], rfl, rfl, .nil⟩
  | cons here more ih =>
    rw [Tree.evaluateItems] at evaluated
    rcases Fault.exists_of_bind evaluated with ⟨value, first, evaluated⟩
    rcases here source room value first with ⟨number, shown, rfl, item, matching⟩
    rcases Fault.exists_of_bind evaluated with ⟨others, behind, same⟩
    cases same
    rcases ih behind with ⟨numbers, found, rfl, each, all⟩
    exact ⟨number :: numbers, shown :: found, rfl, by simp [item, each], .cons matching all⟩

/-- What is read as an array of numbers and as an expression has the same numbers as both, except
for the sign of a zero. -/
theorem readArray_of_evaluateText {text : Text} {environment : Environment} {value : Value}
    {items : List Json} (read : Json.read? (stripStatement text) = some (.array items))
    (numbers : ∀ item ∈ items, Literal.isNumber item = true)
    (bracketed : (stripStatement text).head? = some '[' ∧ (stripStatement text).getLast? = some ']')
    (line : ∀ char ∈ stripStatement text, char ≠ '\n' ∧ char ≠ '\r')
    (unnamed : Unnamed environment (stripStatement text))
    (evaluated : evaluateText text environment = .ok value) :
    ∃ numbers found, value = .array (numbers.map .number) ∧
      Literal.readArray (stripStatement text) = .ok (.array (found.map .number)) ∧
      List.Forall₂ Number.Matches numbers found := by
  rcases exists_tree_of_evaluateText evaluated with ⟨tree, readTree, evaluated⟩
  rcases Json.exists_list read numbers bracketed line unnamed with ⟨trees, spells, flat, denote⟩
  have shallow : (Tree.list default trees).depth ≤ constructionLimit :=
    (Nat.succ_le_succ (Tree.depths_le flat)).trans (by simp [constructionLimit])
  have visible : ∀ char ∈ (stripStatement text).head?, char ∉ separators := by
    rw [bracketed.1]
    rintro _ ⟨⟩
    decide
  have listed := (spells.mono (by decide) le_rfl).evaluate_eq (by decide) visible
    (nul_notMem_of_parseExpression readTree) shallow readTree evaluated
  rw [nestingLimit, Tree.evaluate] at listed
  rcases Fault.exists_of_bind listed with ⟨cells, each, same⟩
  cases same
  rcases exists_numbers denote each with ⟨numbers', found, rfl, same, matching⟩
  refine ⟨numbers', found, rfl, ?_, matching⟩
  simp only [Literal.readArray, read, List.all_eq_true.mpr numbers, if_true, Literal.cells_eq same]
  rfl

end StepScript

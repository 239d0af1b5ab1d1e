import StepScript.Proofs.Expression.Pieces
import StepScript.Text.Lines

/-!
# Forms of statements

How statements are written.  A form is a statement taken apart into the names and the texts that it
is written with; `Form.render` writes it on a line, and `Form.statement` is what it means.  Nothing
is asked of the names and texts but that they can be told from what stands around them.
-/

namespace StepScript

namespace Text

/-- No comment begins inside of the text. -/
def Uncommented (text : Text) : Prop :=
  text.IsChain fun first second => ¬(first = '/' ∧ second = '/')

namespace Uncommented

variable {text rest : Text} {char second : Char}

theorem nil : Uncommented [] :=
  List.IsChain.nil

theorem of_no_marker (absent : ¬['/', '/'] <:+: text) : Uncommented text := by
  induction text with
  | nil => exact .nil
  | cons first text ih =>
    have behind : Uncommented text := ih fun inside => absent (List.infix_cons inside)
    cases text with
    | nil => exact .singleton first
    | cons second text =>
      refine List.isChain_cons_cons.mpr ⟨?_, behind⟩
      rintro ⟨rfl, rfl⟩
      exact absent ⟨[], text, rfl⟩

theorem no_marker (uncommented : Uncommented text) : ¬['/', '/'] <:+: text := by
  rintro ⟨front, behind, rfl⟩
  have marker := (List.isChain_append.mp (List.isChain_append.mp uncommented).1).2.1
  exact (List.isChain_cons_cons.mp marker).1 ⟨rfl, rfl⟩

/-- A text without slashes holds no comment. -/
theorem of_plain (plain : ∀ char ∈ text, char ≠ '/') : Uncommented text := by
  induction text with
  | nil => exact .nil
  | cons first text ih =>
    have behind : Uncommented text :=
      ih fun char inside => plain char (List.mem_cons_of_mem _ inside)
    refine List.isChain_cons.mpr ⟨?_, behind⟩
    rintro second _ ⟨slash, _⟩
    exact plain first List.mem_cons_self slash

/-- A slash can stand in front of another character. -/
theorem cons_cons (behind : Uncommented (second :: text)) (plain : second ≠ '/') :
    Uncommented (char :: second :: text) :=
  List.isChain_cons_cons.mpr ⟨fun slashes => plain slashes.2, behind⟩

/-- Two texts can be joined by a mark without slashes. -/
theorem join (front : Uncommented text) (first : Char) (marks : Text) (behind : Uncommented rest)
    (plain : ∀ mark ∈ first :: marks, mark ≠ '/') :
    Uncommented (text ++ first :: (marks ++ rest)) := by
  have unslashed : first ≠ '/' := plain first List.mem_cons_self
  have marked : Uncommented ((first :: marks) ++ rest) := by
    refine List.isChain_append.mpr ⟨of_plain plain, behind, ?_⟩
    rintro last found _ _ ⟨slash, _⟩
    exact plain last (List.mem_of_getLast? found) slash
  refine List.isChain_append.mpr ⟨front, marked, ?_⟩
  rintro last _ next found ⟨_, slash⟩
  obtain rfl : first = next := by simpa using found
  exact unslashed slash

theorem beforeComment_eq (uncommented : Uncommented text) :
    stripStatement.beforeComment text = text := by
  induction text with
  | nil => rfl
  | cons first text ih =>
    rcases List.isChain_cons.mp uncommented with ⟨joins, behind⟩
    rw [beforeComment_cons, ih behind]
    rintro ⟨slash, second⟩
    exact joins '/' second ⟨slash, rfl⟩

end Uncommented

/-! ## Texts without blanks around them -/

section Trimmed

variable {text : Text}

theorem trim_trim (text : Text) : trim (trim text) = trim text := by
  obtain ⟨tail, whole, _⟩ := dropEnd_append isBlank (trimStart text)
  have ended : trimEnd (trim text) = trim text := by
    simp only [trim, trimEnd, dropEnd, List.reverse_reverse]
    rw [List.dropWhile_idempotent]
  have started : trimStart (trim text) = trim text := by
    cases spoken : trim text with
    | nil => rfl
    | cons char rest =>
      have head := List.head?_dropWhile_not isBlank text
      rw [show text.dropWhile isBlank = char :: rest ++ tail by rw [← spoken]; exact whole] at head
      exact List.dropWhile_cons_of_neg (by simpa using head)
  rw [trim, started, ended]

theorem trimStart_of_trim (trimmed : trim text = text) : trimStart text = text := by
  have shorter : (trim text).Sublist (trimStart text) := (dropEnd_isPrefix isBlank _).sublist
  rw [trimmed] at shorter
  exact ((List.dropWhile_suffix isBlank).sublist.antisymm shorter :)

theorem trimEnd_of_trim (trimmed : trim text = text) : trimEnd text = text := by
  conv_lhs => rw [← trimStart_of_trim trimmed]
  exact trimmed

theorem head_of_trim {char : Char} {rest : Text} (trimmed : trim (char :: rest) = char :: rest) :
    isBlank char = false := by
  have kept := trimStart_of_trim trimmed
  by_contra blank
  have shorter : (rest.dropWhile isBlank).length ≤ rest.length :=
    (List.dropWhile_suffix isBlank).length_le
  rw [trimStart, List.dropWhile_cons_of_pos (by simpa using blank)] at kept
  rw [kept, List.length_cons] at shorter
  omega

theorem last_of_trim {char : Char} {front : Text}
    (trimmed : trim (front ++ [char]) = front ++ [char]) : isBlank char = false := by
  have kept := congrArg List.reverse (trimEnd_of_trim trimmed)
  by_contra blank
  have shorter : (front.reverse.dropWhile isBlank).length ≤ front.reverse.length :=
    (List.dropWhile_suffix isBlank).length_le
  rw [trimEnd, dropEnd, List.reverse_reverse, List.reverse_concat,
    List.dropWhile_cons_of_pos (by simpa using blank)] at kept
  rw [kept, List.length_cons] at shorter
  omega

end Trimmed

/-! ## Words -/

theorem isBlank_of_isWord {char : Char} (word : isWord char = true) : isBlank char = false := by
  -- The blanks outside of ASCII: none of them lies in a range of word characters.
  have foreign : ∀ code ∈ [0x85, 0xA0, 0x1680, 0x2000, 0x2001, 0x2002, 0x2003, 0x2004, 0x2005,
      0x2006, 0x2007, 0x2008, 0x2009, 0x200A, 0x2028, 0x2029, 0x202F, 0x205F, 0x3000],
      inRanges wordRanges code = false := by decide +kernel
  by_cases ascii : char.toNat < 128
  · rw [isWord, if_pos ascii] at word
    rcases Bool.or_eq_true_iff.mp word with alphanum | underscore
    · have range := Expr.toNat_of_isAlphanum alphanum
      simp [isBlank]
      omega
    · rw [beq_iff_eq.mp underscore]
      decide
  · rw [isWord, if_neg ascii] at word
    by_contra blank
    have known := foreign char.toNat (by simp [isBlank] at blank ⊢; omega)
    simp [known] at word

theorem isBlank_of_isLineEnd {char : Char} (ends : isLineEnd char = true) :
    isBlank char = true := by
  simp only [isLineEnd, isBlank, Bool.or_eq_true, Bool.and_eq_true, decide_eq_true_eq,
    beq_iff_eq] at ends ⊢
  omega

theorem isLineEnd_of_isWord {char : Char} (word : isWord char = true) :
    isLineEnd char = false := by
  by_contra ends
  rw [Bool.not_eq_false] at ends
  exact absurd (isBlank_of_isLineEnd ends) (by simp [isBlank_of_isWord word])

end Text

/-! ## Parts of statements -/

namespace Form

/-- A name: an ASCII letter or an underscore, and behind it word characters of any script.  Words
that open statements are names as well. -/
structure Name where
  first : Char
  rest : Text
  opens : first.isAlpha = true ∨ first = '_'
  continues : ∀ char ∈ rest, Text.isWord char = true

def Name.text (name : Name) : Text :=
  name.first :: name.rest

/-- A text that stands in a statement: there are no blanks around it, no line feed and no comment
in it. -/
structure Part where
  text : Text
  spoken : text ≠ []
  trimmed : Text.trim text = text
  oneLine : '\n' ∉ text
  uncommented : ¬['/', '/'] <:+: text

/-- A part that can stand in front of the semicolon behind a statement. -/
structure Expression extends Part where
  unended : text.getLast? ≠ some ';'

/-- A part that can stand in front of the semicolon between two clauses. -/
structure Clause extends Part where
  undivided : ';' ∉ text

/-- What a compound assignment does with the old value. -/
inductive Operator where
  | plus
  | minus
  | times
  | over
  deriving DecidableEq, Repr

def Operator.sign : Operator → Char
  | .plus => '+'
  | .minus => '-'
  | .times => '*'
  | .over => '/'

/-- A decimal amount.  It has a point only if there are digits behind it. -/
structure Amount where
  whole : List (Fin 10)
  fraction : List (Fin 10)
  counted : whole ≠ []

namespace Amount

def digits (values : List (Fin 10)) : Text :=
  values.map fun digit => Nat.digitChar digit.val

/-- An amount as it is written. -/
def text (amount : Amount) : Text :=
  if amount.fraction.isEmpty then digits amount.whole
  else digits amount.whole ++ '.' :: digits amount.fraction

/-- The double that an amount stands for. -/
def value (amount : Amount) : Float :=
  (Numeral.mk false (digits amount.whole) (digits amount.fraction) 0).toFloat

end Amount

/-- How the last clause of a loop changes the counter. -/
inductive Change where
  | doubled (negative : Bool)
  | stepped (negative : Bool) (amount : Amount)

namespace Change

def sign (negative : Bool) : Char :=
  if negative then '-' else '+'

/-- A change as it is written, with a space in front of the amount. -/
def text : Change → Text
  | .doubled negative => [sign negative, sign negative]
  | .stepped negative amount => sign negative :: '=' :: ' ' :: amount.text

/-- By how much the counter changes. -/
def step : Change → Float
  | .doubled negative => if negative then -1 else 1
  | .stepped negative amount => if negative then -amount.value else amount.value

end Change

/-- Whether a text begins with the operator of an assignment: an equals sign behind which no other
one stands, possibly with the sign of a compound assignment in front of it. -/
def assigns : Text → Bool
  | '=' :: rest => rest.head? != some '='
  | sign :: '=' :: rest =>
    (sign == '+' || sign == '-' || sign == '*' || sign == '/') && rest.head? != some '='
  | _ => false

end Form

open Form in
/-- A statement taken apart.  An index reaches up to the last bracket that an assignment follows, so
that there must be no such bracket in the value. -/
inductive Form where
  | declaration (keyword : Keyword) (name : Name) (value : Expression)
  | assignment (name : Name) (value : Expression)
  | compound (operator : Operator) (name : Name) (value : Expression)
  | element (name : Name) (index : Part) (value : Expression)
      (settled : ∀ before behind, value.text = before ++ ']' :: behind →
        assigns (Text.trimStart behind) = false)
  | conditional (condition : Part) (opened : Bool)
  | loop (counter : Name) (start : Clause) (tested : Name) (comparator : Comparator)
      (bound : Clause) (change : Change)

namespace Form

/-- The last clause of a loop header, and what follows it. -/
def lastClause (counter : Name) (change : Change) : Text :=
  counter.text ++ ' ' :: (change.text ++ [')', ' ', '\x7b'])

/-- The clauses of a loop header behind its start value. -/
def laterClauses (counter tested : Name) (comparator : Comparator) (bound : Clause)
    (change : Change) : Text :=
  tested.text ++ ' ' :: (comparator.symbol ++ ' ' :: (bound.text ++ ';' :: ' ' ::
    lastClause counter change))

/-- A form as it is written, without the semicolon behind it. -/
def body : Form → Text
  | .declaration keyword name value =>
    keyword.spelling ++ ' ' :: (name.text ++ ' ' :: '=' :: ' ' :: value.text)
  | .assignment name value => name.text ++ ' ' :: '=' :: ' ' :: value.text
  | .compound operator name value => name.text ++ ' ' :: operator.sign :: '=' :: ' ' :: value.text
  | .element name index value _ =>
    name.text ++ '[' :: (index.text ++ ']' :: ' ' :: '=' :: ' ' :: value.text)
  | .conditional condition opened =>
    'i' :: 'f' :: ' ' :: '(' :: (condition.text ++ ')' :: if opened then [' ', '\x7b'] else [])
  | .loop counter start tested comparator bound change =>
    'f' :: 'o' :: 'r' :: ' ' :: '(' :: 'l' :: 'e' :: 't' :: ' ' ::
      (counter.text ++ ' ' :: '=' :: ' ' :: (start.text ++ ';' :: ' ' ::
        laterClauses counter tested comparator bound change))

/-- A form as it is written on a line.  Conditions and loops end without a semicolon. -/
def render (form : Form) : Text :=
  match form with
  | .conditional _ _ | .loop _ _ _ _ _ _ => form.body
  | _ => form.body ++ [';']

/-- What a form means. -/
def statement : Form → Statement
  | .declaration keyword name value => .declaration name.text value.text keyword
  | .assignment name value => .assignment name.text value.text none
  | .compound operator name value =>
    .assignment name.text (name.text ++ ' ' :: operator.sign :: ' ' :: '(' :: value.text ++ [')'])
      none
  | .element name index value _ => .assignment name.text value.text (some index.text)
  | .conditional condition _ => .conditional condition.text
  | .loop counter start tested comparator bound change =>
    .loop
      { counter := counter.text
        start := start.text
        tested := tested.text
        comparator
        bound := bound.text
        increment := change.text.filter (· != ' ')
        step := change.step }

/-- A loop that counts in steps of a half, up to a variable. -/
example :
    render (.loop ⟨'i', [], .inl rfl, by simp⟩
      ⟨⟨['0'], by simp, by decide, by simp, by decide⟩, by simp⟩ ⟨'i', [], .inl rfl, by simp⟩ .less
      ⟨⟨['n'], by simp, by decide, by simp, by decide⟩, by simp⟩
      (.stepped false ⟨[0], [5], by simp⟩)) =
      "for (let i = 0; i < n; i += 0.5) \x7b".toList := by decide

/-! ## What parts are made of -/

namespace Name

variable (name : Name)

theorem isWord_of_mem {char : Char} (member : char ∈ name.text) : Text.isWord char = true := by
  rcases List.mem_cons.mp member with rfl | behind
  · rcases name.opens with letter | underscore
    · have alphanum : name.first.isAlphanum = true := by simp [Char.isAlphanum, letter]
      have range := Expr.toNat_of_isAlphanum alphanum
      rw [Text.isWord, if_pos (by omega), alphanum, Bool.true_or]
    · rw [underscore]
      decide
  · exact name.continues char behind

theorem uncommented : Text.Uncommented name.text := by
  refine .of_plain ?_
  rintro char member rfl
  exact absurd (name.isWord_of_mem member) (by decide)

end Name

namespace Part

variable (part : Part)

theorem head : ∃ char rest, part.text = char :: rest ∧ Text.isBlank char = false := by
  have trimmed := part.trimmed
  cases text : part.text with
  | nil => exact absurd text part.spoken
  | cons char rest =>
    rw [text] at trimmed
    exact ⟨char, rest, rfl, Text.head_of_trim trimmed⟩

theorem last : ∃ front char, part.text = front ++ [char] ∧ Text.isBlank char = false := by
  have trimmed := part.trimmed
  rcases List.eq_nil_or_concat' part.text with empty | ⟨front, char, text⟩
  · exact absurd empty part.spoken
  · rw [text] at trimmed
    exact ⟨front, char, text, Text.last_of_trim trimmed⟩

end Part

namespace Amount

variable {values : List (Fin 10)} {char : Char}

theorem isDigit_of_mem_digits (member : char ∈ digits values) : char.isDigit = true := by
  have each : ∀ digit : Fin 10, (Nat.digitChar digit.val).isDigit = true := by decide
  rcases List.mem_map.mp member with ⟨digit, _, rfl⟩
  exact each digit

theorem isDigit_or_point {amount : Amount} (member : char ∈ amount.text) :
    char.isDigit = true ∨ char = '.' := by
  unfold text at member
  split at member
  · exact .inl (isDigit_of_mem_digits member)
  · rcases List.mem_append.mp member with whole | behind
    · exact .inl (isDigit_of_mem_digits whole)
    · exact (List.mem_cons.mp behind).symm.imp isDigit_of_mem_digits id

/-- An amount begins with a digit. -/
theorem head (amount : Amount) :
    ∃ char rest, amount.text = char :: rest ∧ Text.isBlank char = false := by
  have visible : ∀ char ∈ amount.text, Text.isBlank char = false := by
    intro char member
    rcases isDigit_or_point member with digit | rfl
    · exact Expr.isBlank_of_isSolid (Expr.isSolid_of_isDigit digit)
    · decide
  cases text : amount.text with
  | nil =>
    unfold Amount.text at text
    split at text <;> simp [digits, amount.counted] at text
  | cons char rest => exact ⟨char, rest, rfl, visible char (text ▸ List.mem_cons_self)⟩

theorem ne_of_mem {amount : Amount} {other : Char} (member : char ∈ amount.text)
    (foreign : other.isDigit = false) (unpointed : other ≠ '.') : char ≠ other := by
  rintro rfl
  rcases isDigit_or_point member with digit | point
  · simp [foreign] at digit
  · exact unpointed point

end Amount

theorem Change.uncommented (change : Change) : Text.Uncommented change.text := by
  have unslashed : ∀ negative, Change.sign negative ≠ '/' := by decide
  cases change with
  | doubled negative => exact .of_plain (by simp [Change.text, unslashed])
  | stepped negative amount =>
    refine .of_plain ?_
    have inside : ∀ char ∈ amount.text, char ≠ '/' :=
      fun char member => Amount.ne_of_mem member (by decide) (by decide)
    simpa [Change.text, unslashed] using inside

/-- No comment begins inside of a form. -/
theorem uncommented_body (form : Form) : Text.Uncommented form.body := by
  have written : ∀ part : Part, Text.Uncommented part.text :=
    fun part => .of_no_marker part.uncommented
  cases form with
  | declaration keyword name value =>
    have spelled : Text.Uncommented keyword.spelling :=
      .of_plain (by cases keyword <;> simp [Keyword.spelling])
    have named := name.uncommented.join ' ' ['=', ' '] (written value.toPart) (by simp)
    exact spelled.join ' ' [] named (by simp)
  | assignment name value =>
    exact name.uncommented.join ' ' ['=', ' '] (written value.toPart) (by simp)
  | compound operator name value =>
    have assigned : Text.Uncommented ('=' :: ' ' :: value.text) :=
      Text.Uncommented.nil.join '=' [' '] (written value.toPart) (by simp)
    exact name.uncommented.join ' ' [] (assigned.cons_cons (by decide)) (by simp)
  | element name index value settled =>
    have indexed := (written index).join ']' [' ', '=', ' '] (written value.toPart) (by simp)
    exact name.uncommented.join '[' [] indexed (by simp)
  | conditional condition opened =>
    have ending : Text.Uncommented (if opened then [' ', '\x7b'] else []) :=
      .of_plain (by cases opened <;> simp)
    have inside := (written condition).join ')' [] ending (by simp)
    exact Text.Uncommented.nil.join 'i' ['f', ' ', '('] inside (by simp)
  | loop counter start tested comparator bound change =>
    have compared : Text.Uncommented comparator.symbol :=
      .of_plain (by cases comparator <;> simp [Comparator.symbol])
    have changed := change.uncommented.join ')' [' ', '\x7b'] .nil (by simp)
    have last : Text.Uncommented (lastClause counter change) :=
      counter.uncommented.join ' ' [] changed (by simp)
    have bounded := (written bound.toPart).join ';' [' '] last (by simp)
    have related := compared.join ' ' [] bounded (by simp)
    have later : Text.Uncommented (laterClauses counter tested comparator bound change) :=
      tested.uncommented.join ' ' [] related (by simp)
    have started := (written start.toPart).join ';' [' '] later (by simp)
    have counted := counter.uncommented.join ' ' ['=', ' '] started (by simp)
    exact Text.Uncommented.nil.join 'f' ['o', 'r', ' ', '(', 'l', 'e', 't', ' '] counted (by simp)

/-- A form begins with a character that is no blank. -/
theorem trimStart_body (form : Form) : Text.trimStart form.body = form.body := by
  have named : ∀ (name : Name) (rest : Text),
      Text.trimStart (name.text ++ rest) = name.text ++ rest := by
    intro name rest
    have word : Text.isWord name.first = true := name.isWord_of_mem List.mem_cons_self
    exact List.dropWhile_cons_of_neg (by simp [Text.isBlank_of_isWord word])
  cases form with
  | declaration keyword name value => cases keyword <;> rfl
  | assignment name value => exact named name _
  | compound operator name value => exact named name _
  | element name index value settled => exact named name _
  | conditional condition opened => rfl
  | loop counter start tested comparator bound change => rfl

/-- A value ends with a character that is neither a blank nor a semicolon. -/
theorem Expression.dropEnd_append (value : Expression) (front : Text) :
    Text.dropEnd Text.isPadding (front ++ value.text) = front ++ value.text := by
  rcases value.toPart.last with ⟨inner, char, text, blank⟩
  have other : char ≠ ';' := by
    rintro rfl
    exact value.unended (by rw [text, List.getLast?_concat])
  rw [text, ← List.append_assoc]
  exact Text.dropEnd_concat (by simp [Text.isPadding, other, blank]) (front ++ inner)

theorem dropEnd_body (form : Form) : Text.dropEnd Text.isPadding form.body = form.body := by
  have ended : ∀ (front : Text) (char : Char), Text.isPadding char = false →
      Text.dropEnd Text.isPadding (front ++ [char]) = front ++ [char] :=
    fun front _ kept => Text.dropEnd_concat kept front
  cases form with
  | declaration keyword name value =>
    simpa [body] using
      value.dropEnd_append (keyword.spelling ++ ' ' :: (name.text ++ [' ', '=', ' ']))
  | assignment name value => simpa [body] using value.dropEnd_append (name.text ++ [' ', '=', ' '])
  | compound operator name value =>
    simpa [body] using value.dropEnd_append (name.text ++ [' ', operator.sign, '=', ' '])
  | element name index value settled =>
    simpa [body] using
      value.dropEnd_append (name.text ++ '[' :: (index.text ++ [']', ' ', '=', ' ']))
  | conditional condition opened =>
    cases opened with
    | false => simpa [body] using ended ('i' :: 'f' :: ' ' :: '(' :: condition.text) ')' rfl
    | true =>
      simpa [body] using
        ended ('i' :: 'f' :: ' ' :: '(' :: (condition.text ++ [')', ' '])) '\x7b' rfl
  | loop counter start tested comparator bound change =>
    have last : ['\x7b'] <:+ lastClause counter change :=
      ⟨counter.text ++ ' ' :: (change.text ++ [')', ' ']), by simp [lastClause]⟩
    have later : lastClause counter change <:+
        laterClauses counter tested comparator bound change :=
      ⟨tested.text ++ ' ' :: (comparator.symbol ++ ' ' :: (bound.text ++ [';', ' '])),
        by simp [laterClauses]⟩
    rcases last.trans later with ⟨front, closed⟩
    rw [body, ← closed]
    simpa using ended ('f' :: 'o' :: 'r' :: ' ' :: '(' :: 'l' :: 'e' :: 't' :: ' ' ::
      (counter.text ++ ' ' :: '=' :: ' ' :: (start.text ++ ';' :: ' ' :: front)))
      '\x7b' rfl

/-- A text is not stripped if it neither begins nor ends with padding and holds no comment. -/
theorem stripStatement_eq {text : Text} (visible : Text.trimStart text = text)
    (uncommented : Text.Uncommented text) (kept : Text.dropEnd Text.isPadding text = text) :
    stripStatement text = text :=
  calc stripStatement text
      = Text.dropEnd Text.isPadding (stripStatement.beforeComment (Text.trimStart text)) := rfl
    _ = text := by rw [visible, uncommented.beforeComment_eq, kept]

theorem stripStatement_body (form : Form) : stripStatement form.body = form.body :=
  stripStatement_eq form.trimStart_body form.uncommented_body form.dropEnd_body

/-- Nothing but the semicolon behind it is stripped from a form. -/
theorem stripStatement_render (form : Form) : stripStatement form.render = form.body := by
  have bare := form.stripStatement_body
  have semicolon : IsFiller [';'] := .of_padding (by simp [Text.isPadding])
  cases form with
  | conditional condition opened => exact bare
  | loop counter start tested comparator bound change => exact bare
  | declaration keyword name value => exact (stripStatement_append semicolon _).trans bare
  | assignment name value => exact (stripStatement_append semicolon _).trans bare
  | compound operator name value => exact (stripStatement_append semicolon _).trans bare
  | element name index value settled => exact (stripStatement_append semicolon _).trans bare

end Form

end StepScript

import StepScript.Proofs.Statement.Form

/-!
# Recognising forms

A line that writes a form is classified as what the form means (`classify_render`).  Each recogniser
finds the parts that the form was written with, whatever these are, and no recogniser that comes
earlier takes the line for something else.
-/

namespace StepScript

namespace Pattern

open Form (Name Part Expression Clause Amount Change)

/-! ## Names and keywords -/

/-- A name is found in front of a character that does not continue it. -/
theorem name?_text (name : Name) {char : Char} (stops : Text.isWord char = false) (rest : Text) :
    name? (name.text ++ char :: rest) = some (name.text, char :: rest) := by
  have opens : (name.first.isAlpha || name.first == '_') = true := by
    simpa using name.opens
  have taken : (name.rest ++ char :: rest).takeWhile Text.isWord = name.rest := by
    rw [List.takeWhile_append_of_pos name.continues, List.takeWhile_cons_of_neg (by simp [stops]),
      List.append_nil]
  have left : (name.rest ++ char :: rest).dropWhile Text.isWord = char :: rest := by
    rw [List.dropWhile_append_of_pos name.continues, List.dropWhile_cons_of_neg (by simp [stops])]
  rw [Name.text, List.cons_append, name?, if_pos opens, taken, left]

/-- What follows a word at the front of a name: all that stands behind the name, or more of it. -/
theorem behind_of_after? {name : Name} {word rest behind : Text} {char : Char}
    (stops : Text.isWord char = false) (letters : word.all Text.isWord = true)
    (found : Text.after? word (name.text ++ char :: rest) = some behind) :
    behind = char :: rest ∨ ∃ next more, behind = next :: more ∧ Text.isWord next = true := by
  rcases List.append_eq_append_iff.mp (Text.eq_append_of_after? found) with
    ⟨more, rfl, same⟩ | ⟨more, same, rfl⟩
  · cases more with
    | nil => exact .inl same.symm
    | cons first more =>
      obtain rfl : char = first := (List.cons.inj same).1
      have word : Text.isWord char = true := List.all_eq_true.mp letters char (by simp)
      simp [stops] at word
  · cases more with
    | nil => exact .inl rfl
    | cons next more =>
      have word : Text.isWord next = true := name.isWord_of_mem (by simp [same])
      exact .inr ⟨next, more ++ char :: rest, rfl, word⟩

theorem mark?_of_isWord {mark char : Char} {rest : Text} (word : Text.isWord char = true)
    (other : Text.isWord mark = false) : mark? mark (char :: rest) = none := by
  rw [mark?, List.dropWhile_cons_of_neg (by simp [Text.isBlank_of_isWord word])]
  refine if_neg ?_
  rintro rfl
  simp [word] at other

theorem blanks?_of_isWord {char : Char} {rest : Text} (word : Text.isWord char = true) :
    blanks? (char :: rest) = none := by
  simp [blanks?, Text.isBlank_of_isWord word]

section Named

variable {name : Name} {char : Char} {rest : Text}

theorem declaration?_name (stops : Text.isWord char = false)
    (unnamed : ∀ found, blanks? (char :: rest) = some found → name? found = none) :
    declaration? (name.text ++ char :: rest) = none := by
  unfold declaration?
  cases found : keyword? (name.text ++ char :: rest) with
  | none => rfl
  | some result =>
    rcases result with ⟨keyword, behind⟩
    rcases List.exists_of_findSome?_eq_some found with ⟨other, _, after⟩
    rcases Option.map_eq_some_iff.mp after with ⟨_, after, same⟩
    cases same
    have letters : keyword.spelling.all Text.isWord = true := by
      cases keyword <;> decide
    rcases behind_of_after? stops letters after with rfl | ⟨next, more, rfl, word⟩
    · cases gap : blanks? (char :: rest) with
      | none => simp [gap]
      | some text => simp [gap, unnamed text gap]
    · simp [blanks?_of_isWord word]

/-- A name opens neither a loop nor a condition unless a parenthesis follows it. -/
theorem mark?_name {word behind : Text} (stops : Text.isWord char = false)
    (letters : word.all Text.isWord = true) (unmarked : mark? '(' (char :: rest) = none)
    (found : Text.after? word (name.text ++ char :: rest) = some behind) :
    mark? '(' behind = none := by
  rcases behind_of_after? stops letters found with rfl | ⟨next, more, rfl, word⟩
  · exact unmarked
  · exact mark?_of_isWord word (by decide)

theorem loop?_name (stops : Text.isWord char = false) (unmarked : mark? '(' (char :: rest) = none) :
    loop? (name.text ++ char :: rest) = .ok none := by
  have absent : header? (name.text ++ char :: rest) = none := by
    unfold header?
    cases found : Text.after? ['f', 'o', 'r'] (name.text ++ char :: rest) with
    | none => rfl
    | some behind => simp [mark?_name stops (by decide) unmarked found]
  rw [loop?, absent]

theorem conditional?_name (stops : Text.isWord char = false)
    (unmarked : mark? '(' (char :: rest) = none) :
    conditional? (name.text ++ char :: rest) = none := by
  unfold conditional?
  cases found : Text.after? ['i', 'f'] (name.text ++ char :: rest) with
  | none => rfl
  | some behind => simp [mark?_name stops (by decide) unmarked found]

end Named

/-! ## Right sides -/

theorem afterBlanks_part {α : Type} {next : Text → Option α} {part : Part} (rest : Text)
    {found : α} (taken : next (part.text ++ rest) = some found) :
    afterBlanks next (' ' :: (part.text ++ rest)) = some found := by
  rcases part.head with ⟨char, behind, text, visible⟩
  have blank : Text.isBlank ' ' = true := by decide
  rw [text, List.cons_append] at taken ⊢
  simp [afterBlanks, blank, visible, taken]

theorem restOfLine?_part (part : Part) : restOfLine? part.text = some part.text := by
  have inside : ∀ char ∈ part.text, (char != '\n') = true := by
    intro char member
    rw [bne_iff_ne]
    rintro rfl
    exact part.oneLine member
  simp [restOfLine?, List.takeWhile_eq_self_iff.mpr inside, List.dropWhile_eq_nil_iff.mpr inside,
    part.spoken]

theorem rightSide?_part (part : Part) : rightSide? ('=' :: ' ' :: part.text) = some part.text := by
  have taken : afterBlanks restOfLine? (' ' :: part.text) = some part.text := by
    have whole : restOfLine? (part.text ++ []) = some part.text := by
      rw [List.append_nil, restOfLine?_part]
    simpa using afterBlanks_part [] whole
  simp [rightSide?, taken, part.trimmed]

/-! ## Assignments -/

theorem assigned?_part (part : Part) :
    assigned? (' ' :: '=' :: ' ' :: part.text) = some (none, part.text) := by
  have plain : assigned? (' ' :: '=' :: ' ' :: part.text) =
      (rightSide? ('=' :: ' ' :: part.text)).map fun expression => (none, expression) := rfl
  rw [plain, rightSide?_part, Option.map_some]

theorem assigned?_compound (operator : Form.Operator) (part : Part) :
    assigned? (operator.sign :: '=' :: ' ' :: part.text) =
      some (some operator.sign, part.text) := by
  have compound : assigned? (operator.sign :: '=' :: ' ' :: part.text) =
      (rightSide? ('=' :: ' ' :: part.text)).map fun expression =>
        (some operator.sign, expression) := by
    cases operator <;> rfl
  rw [compound, rightSide?_part, Option.map_some]

theorem rightSide?_eq_none {text : Text}
    (doubled : ∀ rest, text = '=' :: rest → rest.head? = some '=') :
    rightSide? text = none := by
  unfold rightSide?
  split
  · rfl
  next rest single =>
    rcases List.head?_eq_some_iff.mp (doubled rest rfl) with ⟨more, rfl⟩
    exact absurd rfl (single more)
  · rfl

/-- Where no assignment operator stands, nothing is assigned. -/
theorem assigned?_eq_none {text : Text} (plain : Form.assigns (Text.trimStart text) = false) :
    assigned? text = none := by
  unfold assigned?
  rw [Text.trimStart] at plain
  split
  · rfl
  next char rest visible =>
    rw [visible] at plain
    split
    next signed =>
      rw [rightSide?_eq_none, Option.map_none]
      rintro more rfl
      rcases signed with rfl | rfl | rfl | rfl <;> simpa [Form.assigns] using plain
    next unsigned =>
      rw [rightSide?_eq_none, Option.map_none]
      rintro more same
      rcases List.cons.inj same with ⟨rfl, rfl⟩
      simpa [Form.assigns] using plain

/-- An index reaches up to its bracket, if an assignment stands behind the bracket and none behind
any later one. -/
theorem indexed?_text {index behind : Text} {found : Option Char × Text} (spoken : index ≠ [])
    (oneLine : '\n' ∉ index) (assigned : assigned? behind = some found)
    (last : indexed? (']' :: behind) = none) :
    indexed? (index ++ ']' :: behind) = some (index, found) := by
  induction index with
  | nil => exact absurd rfl spoken
  | cons char index ih =>
    have other : char ≠ '\n' := by
      rintro rfl
      exact oneLine List.mem_cons_self
    unfold indexed?
    cases index with
    | nil =>
      simp only [List.cons_append, List.nil_append, if_neg other, last, assigned, Option.map_some]
    | cons next index =>
      have inner := ih (List.cons_ne_nil _ _) fun member => oneLine (List.mem_cons_of_mem _ member)
      simp only [List.cons_append, if_neg other] at inner ⊢
      rw [inner]

theorem indexed?_eq_none {text : Text}
    (settled : ∀ first before behind, text = first :: before ++ ']' :: behind →
      assigned? behind = none) : indexed? text = none := by
  induction text with
  | nil => rfl
  | cons char text ih =>
    have later : indexed? text = none := by
      refine ih ?_
      intro first before behind same
      exact settled char (first :: before) behind (by rw [same]; rfl)
    unfold indexed?
    rw [later]
    split
    · rfl
    · dsimp only
      split
      next behind => rw [settled char [] behind rfl, Option.map_none]
      · rfl

theorem assignment?_plain (name : Name) (value : Part) :
    assignment? (name.text ++ ' ' :: '=' :: ' ' :: value.text) =
      some (.assignment name.text value.text none) := by
  have assigned : assigned? ('=' :: ' ' :: value.text) = some (none, value.text) :=
    assigned?_part value
  have start : (' ' :: '=' :: ' ' :: value.text).dropWhile Text.isBlank =
    '=' :: ' ' :: value.text := rfl
  simp [assignment?, name?_text name (show Text.isWord ' ' = false by decide), start, assigned]

theorem assignment?_compound (operator : Form.Operator) (name : Name) (value : Part) :
    assignment? (name.text ++ ' ' :: operator.sign :: '=' :: ' ' :: value.text) =
      some (.assignment name.text
        (name.text ++ ' ' :: operator.sign :: ' ' :: '(' :: value.text ++ [')']) none) := by
  have assigned := assigned?_compound operator value
  have start : (' ' :: operator.sign :: '=' :: ' ' :: value.text).dropWhile Text.isBlank =
      operator.sign :: '=' :: ' ' :: value.text := by
    cases operator <;> rfl
  have bracket : operator.sign ≠ '[' := by
    cases operator <;> decide
  simp [assignment?, name?_text name (show Text.isWord ' ' = false by decide), start, assigned,
    bracket]

/-- Behind an index, no later bracket is taken for its end if none in the value can be. -/
theorem indexed?_settled {marks value : Text} (unbracketed : ']' ∉ marks)
    (settled : ∀ before behind, value = before ++ ']' :: behind →
      Form.assigns (Text.trimStart behind) = false) :
    indexed? (']' :: (marks ++ value)) = none := by
  refine indexed?_eq_none ?_
  intro first before behind same
  rcases List.append_eq_append_iff.mp (List.cons.inj same).2 with
    ⟨inner, _, inside⟩ | ⟨rest, split, inside⟩
  · exact assigned?_eq_none (settled inner behind inside)
  -- The bracket does not stand between the index and the value.
  · cases rest with
    | nil => exact assigned?_eq_none (settled [] behind inside.symm)
    | cons next rest =>
      obtain rfl : ']' = next := (List.cons.inj inside).1
      exact absurd (by simp [split]) unbracketed

theorem assignment?_cell (name : Name) (index : Part) {behind expression : Text}
    {sign : Option Char} (assigned : assigned? behind = some (sign, expression))
    (last : indexed? (']' :: behind) = none) :
    assignment? (name.text ++ '[' :: (index.text ++ ']' :: behind)) =
      some (.assignment name.text
        (match sign with
        | some sign =>
          name.text ++ '[' :: index.text ++ [']'] ++ ' ' :: sign :: ' ' :: '(' :: expression ++
            [')']
        | none => expression)
        (some index.text)) := by
  have indexed := indexed?_text index.spoken index.oneLine assigned last
  have start : ('[' :: (index.text ++ ']' :: behind)).dropWhile Text.isBlank =
      '[' :: (index.text ++ ']' :: behind) := rfl
  cases sign <;>
    simp [assignment?, name?_text name (show Text.isWord '[' = false by decide), start, indexed,
      index.trimmed]

theorem assignment?_element (name : Name) (index value : Part)
    (settled : ∀ before behind, value.text = before ++ ']' :: behind →
      Form.assigns (Text.trimStart behind) = false) :
    assignment? (name.text ++ '[' :: (index.text ++ ']' :: ' ' :: '=' :: ' ' :: value.text)) =
      some (.assignment name.text value.text (some index.text)) :=
  assignment?_cell name index (assigned?_part value)
    (indexed?_settled (show ']' ∉ [' ', '=', ' '] by decide) settled)

theorem assignment?_compoundElement (operator : Form.Operator) (name : Name) (index value : Part)
    (settled : ∀ before behind, value.text = before ++ ']' :: behind →
      Form.assigns (Text.trimStart behind) = false) :
    assignment? (name.text ++ '[' ::
        (index.text ++ ']' :: ' ' :: operator.sign :: '=' :: ' ' :: value.text)) =
      some (.assignment name.text
        (name.text ++ '[' :: index.text ++ [']'] ++
          ' ' :: operator.sign :: ' ' :: '(' :: value.text ++ [')'])
        (some index.text)) := by
  have assigned : assigned? (' ' :: operator.sign :: '=' :: ' ' :: value.text) =
      some (some operator.sign, value.text) := by
    rw [← assigned?_compound operator value]
    cases operator <;> rfl
  have unbracketed : ']' ∉ [' ', operator.sign, '=', ' '] := by
    cases operator <;> decide
  exact assignment?_cell name index assigned (indexed?_settled unbracketed settled)

/-! ## Conditions -/

/-- The last closing parenthesis of a text is the one behind which there is no other. -/
theorem splitAtLast?_append {mark : Char} {before behind : Text} (last : mark ∉ behind) :
    Text.splitAtLast? mark (before ++ mark :: behind) = some (before, behind) := by
  have absent : Text.splitAtLast? mark behind = none := by
    induction behind with
    | nil => rfl
    | cons char behind ih =>
      rcases List.ne_and_not_mem_of_not_mem_cons last with ⟨other, last⟩
      rw [Text.splitAtLast?, ih last]
      exact if_neg (Ne.symm other)
  induction before with
  | nil =>
    rw [List.nil_append, Text.splitAtLast?, absent]
    exact if_pos rfl
  | cons char before ih => rw [List.cons_append, Text.splitAtLast?, ih]

theorem conditional?_part (condition : Part) (opened : Bool) :
    conditional? ('i' :: 'f' :: ' ' :: '(' ::
      (condition.text ++ ')' :: if opened then [' ', '\x7b'] else [])) =
      some (.conditional condition.text) := by
  have split : Text.splitAtLast? ')' (condition.text ++ ')' :: if opened then [' ', '\x7b'] else [])
      = some (condition.text, if opened then [' ', '\x7b'] else []) :=
    splitAtLast?_append (by cases opened <;> decide)
  have inside : mark? '(' (' ' :: '(' :: (condition.text ++ ')' ::
      if opened then [' ', '\x7b'] else [])) =
      some (condition.text ++ ')' :: if opened then [' ', '\x7b'] else []) := rfl
  have brace : [' ', '\x7b'].dropWhile Text.isBlank = ['\x7b'] := rfl
  cases opened <;>
    simp_all [conditional?, Text.after?, condition.spoken, condition.oneLine, condition.trimmed]

/-! ## Loops -/

theorem mark?_self {mark : Char} (visible : Text.isBlank mark = false) (rest : Text) :
    mark? mark (mark :: rest) = some rest := by
  rw [mark?, List.dropWhile_cons_of_neg (by simp [visible])]
  exact if_pos rfl

/-- A mark is not found behind a text that holds other characters, of which one is no blank. -/
theorem mark?_append_eq_none {mark : Char} {text : Text} (absent : mark ∉ text)
    (visible : ∃ char ∈ text, Text.isBlank char = false) (rest : Text) :
    mark? mark (text ++ rest) = none := by
  rw [mark?, List.dropWhile_append]
  cases left : text.dropWhile Text.isBlank with
  | nil =>
    rcases visible with ⟨char, member, visible⟩
    simp [List.dropWhile_eq_nil_iff.mp left char member] at visible
  | cons char more =>
    have member : char ∈ text := (List.dropWhile_sublist _).subset (left ▸ List.mem_cons_self)
    refine if_neg ?_
    rintro rfl
    exact absent member

/-- A clause reaches up to the first semicolon, if the rest can be taken there. -/
theorem clauseFrom_text {α : Type} {next : Text → Text → Option α} {taken text rest : Text}
    {found : α} (spoken : text ≠ []) (oneLine : '\n' ∉ text) (undivided : ';' ∉ text)
    (solid : ∀ char ∈ text.getLast?, Text.isBlank char = false)
    (follows : next (taken.reverse ++ text) rest = some found) :
    clauseFrom next taken (text ++ ';' :: rest) = some found := by
  induction text generalizing taken with
  | nil => exact absurd rfl spoken
  | cons char text ih =>
    have other : char ≠ '\n' := by
      rintro rfl
      exact oneLine List.mem_cons_self
    rw [List.cons_append, clauseFrom, if_neg other]
    dsimp only
    cases text with
    | nil =>
      have here : next (char :: taken).reverse rest = some found := by simpa using follows
      rw [List.nil_append, mark?_self (by decide), Option.bind_some, here]
      rfl
    | cons second text =>
      have later : ';' ∉ second :: text := fun member => undivided (List.mem_cons_of_mem _ member)
      have last : ∀ char ∈ (second :: text).getLast?, Text.isBlank char = false := by
        simpa using solid
      -- No semicolon follows yet: behind the blanks there is more of the clause.
      have unmarked : mark? ';' (second :: text ++ ';' :: rest) = none :=
        mark?_append_eq_none later ⟨_, List.getLast_mem (List.cons_ne_nil second text),
          last _ (List.getLast?_eq_getLast_of_ne_nil _)⟩ _
      rw [unmarked, Option.bind_none]
      exact ih (List.cons_ne_nil _ _) (fun member => oneLine (List.mem_cons_of_mem _ member)) later
        last (by simpa using follows)

theorem clause_text {α : Type} {next : Text → Text → Option α} (part : Clause) {rest : Text}
    {found : α} (follows : next part.text rest = some found) :
    clause next (' ' :: (part.text ++ ';' :: rest)) = some found := by
  refine afterBlanks_part _ (clauseFrom_text part.spoken part.oneLine part.undivided ?_ follows)
  rcases part.toPart.last with ⟨front, char, text, visible⟩
  rw [text, List.getLast?_concat]
  rintro last ⟨⟩
  exact visible

/-- A comparison symbol is read whole when a blank stands behind it. -/
theorem comparator_symbol {α : Type} {next : Comparator → Text → Option α}
    (compared : Comparator) {rest : Text} {found : α}
    (follows : next compared (' ' :: rest) = some found) :
    comparator next (compared.symbol ++ ' ' :: rest) = some found := by
  cases compared <;> simp [comparator, Comparator.symbol, follows]

theorem takeWhile_digits (values : List (Fin 10)) (char : Char) (stops : Text.isDigit char = false)
    (rest : Text) :
    (Amount.digits values ++ char :: rest).takeWhile Text.isDigit = Amount.digits values ∧
      (Amount.digits values ++ char :: rest).dropWhile Text.isDigit = char :: rest := by
  have each : ∀ digit ∈ Amount.digits values, Text.isDigit digit = true := by
    have every : ∀ digit : Fin 10, Text.isDigit (Nat.digitChar digit.val) = true := by decide
    intro digit member
    rcases List.mem_map.mp member with ⟨value, _, rfl⟩
    exact every value
  rw [List.takeWhile_append_of_pos each, List.dropWhile_append_of_pos each,
    List.takeWhile_cons_of_neg (by simp [stops]), List.dropWhile_cons_of_neg (by simp [stops])]
  simp

theorem stepDigits?_amount (amount : Amount) (rest : Text) :
    stepDigits? (amount.text ++ ')' :: rest) =
      some (Amount.digits amount.whole, Amount.digits amount.fraction, ')' :: rest) := by
  have counted : (Amount.digits amount.whole).isEmpty = false := by
    simp [Amount.digits, amount.counted]
  unfold stepDigits? Amount.text
  cases whole : amount.fraction.isEmpty with
  | true =>
    rcases takeWhile_digits amount.whole ')' (by decide) rest with ⟨taken, left⟩
    have unpointed : Amount.digits amount.fraction = [] := by
      simp [Amount.digits, List.isEmpty_iff.mp whole]
    simp [taken, left, counted, unpointed]
  | false =>
    rcases takeWhile_digits amount.whole '.' (by decide)
      (Amount.digits amount.fraction ++ ')' :: rest) with ⟨taken, left⟩
    rcases takeWhile_digits amount.fraction ')' (by decide) rest with ⟨places, behind⟩
    have pointed : (Amount.digits amount.fraction).isEmpty = false := by
      simpa [Amount.digits] using whole
    simp [taken, left, places, behind, pointed]

/-- The increment that a change is read as. -/
def incrementOf : Change → Increment
  | .doubled negative => ⟨negative, none⟩
  | .stepped negative amount =>
    ⟨negative, some (' ' :: amount.text,
      ⟨false, Amount.digits amount.whole, Amount.digits amount.fraction, 0⟩)⟩

theorem increment?_change (change : Change) (rest : Text) :
    increment? (change.text ++ ')' :: rest) = some (incrementOf change, ')' :: rest) := by
  cases change with
  | doubled negative => cases negative <;> rfl
  | stepped negative amount =>
    have digits := stepDigits?_amount amount rest
    have point : Amount.digits amount.whole ++ (if Amount.digits amount.fraction = [] then []
        else '.' :: Amount.digits amount.fraction) = amount.text := by
      unfold Amount.text
      cases amount.fraction <;> simp [Amount.digits]
    rcases amount.head with ⟨char, more, text, visible⟩
    have blank : (' ' :: (amount.text ++ ')' :: rest)).takeWhile Text.isBlank = [' '] := by
      rw [text, List.takeWhile_cons_of_pos (by decide), List.cons_append,
        List.takeWhile_cons_of_neg (by simp [visible])]
    have left : (' ' :: (amount.text ++ ')' :: rest)).dropWhile Text.isBlank =
        amount.text ++ ')' :: rest := by
      rw [text, List.dropWhile_cons_of_pos (by decide), List.cons_append,
        List.dropWhile_cons_of_neg (by simp [visible])]
    cases negative <;>
      simp [increment?, Change.text, Change.sign, blank, left, digits, point, incrementOf, guard]

/-- Of an increment only the blanks are not kept. -/
theorem text_incrementOf (change : Change) :
    (incrementOf change).text = change.text.filter (· != ' ') := by
  cases change with
  | doubled negative => cases negative <;> rfl
  | stepped negative amount => cases negative <;> rfl

theorem step_incrementOf (change : Change) : (incrementOf change).step = .ok change.step := by
  cases change with
  | doubled negative => rfl
  | stepped negative amount =>
    have plain : (' ' :: amount.text).any (fun char => 28 ≤ char.toNat && char.toNat ≤ 31) =
        false := by
      rw [List.any_eq_false]
      intro char member
      rcases List.mem_cons.mp member with rfl | member
      · decide
      · rcases Amount.isDigit_or_point member with digit | rfl
        · have range := Expr.toNat_of_isAlphanum (Expr.isAlphanum_of_isDigit digit)
          simp
          omega
        · decide
    rw [incrementOf, Increment.step]
    simp only [plain]
    rfl

/-! ## Loop headers -/

theorem dropWhile_name (name : Name) (rest : Text) :
    (name.text ++ rest).dropWhile Text.isBlank = name.text ++ rest := by
  have word : Text.isWord name.first = true := name.isWord_of_mem List.mem_cons_self
  rw [Name.text, List.cons_append,
    List.dropWhile_cons_of_neg (by simp [Text.isBlank_of_isWord word])]

theorem blanks?_name (name : Name) (rest : Text) :
    blanks? (' ' :: (name.text ++ rest)) = some (name.text ++ rest) := by
  rw [blanks?, if_pos (by decide), dropWhile_name]

theorem lastClause?_text (counter : Name) (change : Change) :
    lastClause? (' ' :: Form.lastClause counter change) =
      some (counter.text, incrementOf change) := by
  have read := increment?_change change [' ', '\x7b']
  have behind : (' ' :: (change.text ++ [')', ' ', '\x7b'])).dropWhile Text.isBlank =
      change.text ++ [')', ' ', '\x7b'] := by
    cases change with
    | doubled negative => cases negative <;> rfl
    | stepped negative amount => cases negative <;> rfl
  have closed : mark? ')' [')', ' ', '\x7b'] = some [' ', '\x7b'] := rfl
  have opens : closesHeader [' ', '\x7b'] = true := by decide
  unfold lastClause? Form.lastClause
  rw [List.dropWhile_cons_of_pos (by decide), dropWhile_name]
  simp [name?_text counter (show Text.isWord ' ' = false by decide), behind, read, closed, opens]

/-- The parts that a loop header is taken apart into. -/
def partsOf (counter : Name) (start : Clause) (tested : Name) (compared : Comparator)
    (bound : Clause) (change : Change) : HeaderParts :=
  { counter := counter.text
    start := start.text
    tested := tested.text
    comparator := compared
    bound := bound.text
    stepped := counter.text
    increment := incrementOf change }

section Header

variable (counter : Name) (start : Clause) (tested : Name) (compared : Comparator) (bound : Clause)
  (change : Change)

theorem laterClauses?_text :
    laterClauses? counter.text start.text
        (' ' :: Form.laterClauses counter tested compared bound change) =
      some (partsOf counter start tested compared bound change) := by
  have behind : ∀ rest : Text, (' ' :: (compared.symbol ++ rest)).dropWhile Text.isBlank =
      compared.symbol ++ rest := by
    cases compared <;> exact fun rest => rfl
  unfold laterClauses? Form.laterClauses
  rw [List.dropWhile_cons_of_pos (by decide), dropWhile_name, name?_text tested (by decide)]
  dsimp only [Option.bind_eq_bind, Option.bind_some]
  rw [behind]
  refine comparator_symbol compared (clause_text bound ?_)
  rw [lastClause?_text]
  rfl

theorem headerParts?_text :
    headerParts? (counter.text ++ ' ' :: '=' :: ' ' :: (start.text ++ ';' :: ' ' ::
        Form.laterClauses counter tested compared bound change)) =
      some (partsOf counter start tested compared bound change) := by
  have later := clause_text start (laterClauses?_text counter start tested compared bound change)
  have equals : ∀ rest, mark? '=' (' ' :: '=' :: rest) = some rest := fun rest => rfl
  simp [headerParts?, name?_text counter (show Text.isWord ' ' = false by decide), equals, later]

theorem loop?_text :
    loop? (Form.body (.loop counter start tested compared bound change)) =
      .ok (some (Form.statement (.loop counter start tested compared bound change))) := by
  have parts := headerParts?_text counter start tested compared bound change
  have opened : ∀ rest, mark? '(' (' ' :: '(' :: rest) = some rest := fun rest => rfl
  have declared : ∀ rest : Text, ('l' :: 'e' :: 't' :: rest).dropWhile Text.isBlank =
      'l' :: 'e' :: 't' :: rest := fun rest => rfl
  have found : header? (Form.body (.loop counter start tested compared bound change)) =
      some (partsOf counter start tested compared bound change) := by
    simp [header?, Form.body, Text.after?, opened, declared, Keyword.spelling, blanks?_name, parts]
  rw [loop?, found]
  simp [partsOf, step_incrementOf, text_incrementOf, Form.statement, bind, Except.bind, pure,
    Except.pure]

end Header

/-! ## Declarations -/

theorem declaration?_text (keyword : Keyword) (name : Name) (value : Part) :
    declaration? (keyword.spelling ++ ' ' :: (name.text ++ ' ' :: '=' :: ' ' :: value.text)) =
      some (.declaration name.text value.text keyword) := by
  have spelled : ∀ rest,
      keyword? (keyword.spelling ++ ' ' :: rest) = some (keyword, ' ' :: rest) := by
    cases keyword <;> exact fun rest => rfl
  have start : (' ' :: '=' :: ' ' :: value.text).dropWhile Text.isBlank =
    '=' :: ' ' :: value.text := rfl
  simp [declaration?, spelled, blanks?_name,
    name?_text name (show Text.isWord ' ' = false by decide), start, rightSide?_part]

end Pattern

namespace Form

/-- A line that begins with a name and is no declaration, loop or condition is an assignment. -/
theorem classifyStripped_assignment {name : Name} {char : Char} {rest : Text}
    {statement : Statement} (stops : Text.isWord char = false)
    (unnamed : ∀ found, Pattern.blanks? (char :: rest) = some found →
      Pattern.name? found = none)
    (unmarked : Pattern.mark? '(' (char :: rest) = none)
    (assigned : Pattern.assignment? (name.text ++ char :: rest) = some statement) :
    classifyStripped (name.text ++ char :: rest) = .ok statement := by
  have spoken : (name.text ++ char :: rest).isEmpty = false := by simp
  simp [classifyStripped, Pattern.declaration?_name stops unnamed,
    Pattern.loop?_name stops unmarked, Pattern.conditional?_name stops unmarked, assigned]

/-- A form is recognised by what is left of it when it is stripped. -/
theorem classifyStripped_body (form : Form) : classifyStripped form.body = .ok form.statement := by
  cases form with
  | declaration keyword name value =>
    have spoken : (body (.declaration keyword name value)).isEmpty = false := by simp [body]
    rw [classifyStripped, spoken, body, Pattern.declaration?_text]
    rfl
  | assignment name value =>
    refine classifyStripped_assignment (by decide) ?_ rfl
      (Pattern.assignment?_plain name value.toPart)
    rintro found ⟨⟩
    rfl
  | compound operator name value =>
    refine classifyStripped_assignment (by decide) ?_ ?_
      (Pattern.assignment?_compound operator name value.toPart)
    · rintro found ⟨⟩
      cases operator <;> rfl
    · cases operator <;> rfl
  | element name index value settled =>
    refine classifyStripped_assignment (by decide) ?_ rfl
      (Pattern.assignment?_element name index value.toPart settled)
    rintro found ⟨⟩
  | conditional condition opened =>
    have declared : Pattern.declaration? (body (.conditional condition opened)) = none := rfl
    have looped : Pattern.loop? (body (.conditional condition opened)) = .ok none := rfl
    have found := Pattern.conditional?_part condition opened
    rw [classifyStripped, declared, looped, body, found]
    rfl
  | loop counter start tested compared bound change =>
    have declared : Pattern.declaration? (body (.loop counter start tested compared bound change)) =
      none := rfl
    rw [classifyStripped, declared, Pattern.loop?_text]
    rfl

theorem eq_of_essence (form : Form) {found : Statement} (same : found.essence = form.statement) :
    found = form.statement := by
  cases form <;> cases found <;> simp_all [Statement.essence, statement]

theorem essence_statement (form : Form) : form.statement.essence = form.statement := by
  cases form <;> rfl

/-- A line says what is left of it when it is stripped, if that is told by its essence. -/
theorem classify_of_stripped {line : Text} {statement : Statement}
    (said : classifyStripped (stripStatement line) = .ok statement)
    (told : ∀ found : Statement, found.essence = statement.essence → found = statement) :
    classify line = .ok statement :=
  classify_of_essence (by rw [classify_essence, said]; rfl) told

/-- A line of which a form is left when it is stripped is classified as what the form means. -/
theorem classify_of_body {line : Text} (form : Form) (stripped : stripStatement line = form.body) :
    classify line = .ok form.statement :=
  classify_of_stripped (stripped ▸ form.classifyStripped_body)
    fun _ same => form.eq_of_essence (same.trans form.essence_statement)

/-- A line that writes a form is classified as what the form means. -/
theorem classify_render (form : Form) : classify form.render = .ok form.statement :=
  form.classify_of_body form.stripStatement_render

end Form

/-! ## What recognisers find -/

namespace Pattern

theorem exists_of_declaration? {text name expression : Text} {keyword : Keyword}
    (found : declaration? text = some (.declaration name expression keyword)) :
    ∃ word : Form.Name, word.text = name := by
  simp only [declaration?, Option.bind_eq_bind, Option.bind_eq_some_iff, Prod.exists,
    Option.pure_def, Option.some.injEq, Statement.declaration.injEq] at found
  rcases found with ⟨_, _, _, _, named, rest, _, spelled, _, _, rfl, _, _⟩
  unfold name? at spelled
  split at spelled
  · cases spelled
  · rename_i char rest
    split at spelled
    · rename_i opens
      cases spelled
      exact ⟨⟨char, rest.takeWhile Text.isWord, by simpa using opens,
        fun _ member => List.mem_takeWhile_imp member⟩, rfl⟩
    · cases spelled

theorem exists_of_loop? {text : Text} {statement : Statement}
    (found : loop? text = .ok (some statement)) :
    ∃ header, statement = .loop header := by
  unfold loop? at found
  split at found
  · cases found
  · split at found
    · rename_i parts _ _
      cases amount : parts.increment.step with
      | error cause =>
        rw [amount] at found
        cases found
      | ok step =>
        rw [amount] at found
        cases found
        exact ⟨_, rfl⟩
    · cases found

theorem exists_of_conditional? {text : Text} {statement : Statement}
    (found : conditional? text = some statement) :
    ∃ condition, statement = .conditional condition := by
  simp only [conditional?, Option.bind_eq_bind, Option.bind_eq_some_iff] at found
  rcases found with ⟨_, _, _, _, _, _, _, _, closed⟩
  split at closed <;> cases closed <;> exact ⟨_, rfl⟩

theorem exists_of_assignment? {text : Text} {statement : Statement}
    (found : assignment? text = some statement) :
    ∃ name expression index, statement = .assignment name expression index := by
  simp only [assignment?, Option.bind_eq_bind, Option.bind_eq_some_iff] at found
  rcases found with ⟨_, _, same⟩
  split at same <;> rcases Option.bind_eq_some_iff.mp same with ⟨_, _, ⟨⟩⟩ <;>
    exact ⟨_, _, _, rfl⟩

end Pattern

/-- A line that is classified as a declaration declares a name. -/
theorem Form.Name.exists_of_classify {line name expression : Text} {keyword : Keyword}
    (declared : classify line = .ok (.declaration name expression keyword)) :
    ∃ word : Form.Name, word.text = name := by
  unfold classify at declared
  dsimp only at declared
  split at declared
  · cases declared
  · cases declared
  split at declared
  · cases declared
  split at declared
  · rename_i found
    cases declared
    exact Pattern.exists_of_declaration? found
  split at declared
  · cases declared
  · rename_i found
    cases declared
    rcases Pattern.exists_of_loop? found with ⟨header, ⟨⟩⟩
  · generalize stripStatement (Text.trim line) = text at declared
    cases condition : Pattern.conditional? text with
    | some statement =>
      rcases Pattern.exists_of_conditional? condition with ⟨_, rfl⟩
      simp [condition] at declared
    | none =>
      cases assignment : Pattern.assignment? text with
      | some statement =>
        rcases Pattern.exists_of_assignment? assignment with ⟨_, _, _, rfl⟩
        simp [condition, assignment] at declared
      | none => simp [condition, assignment] at declared

end StepScript

import StepScript.Proofs.Breakdown
import StepScript.Proofs.Statement.Recognition

/-!
# Loop headers with a block behind them

A loop header that ends with its parenthesis says the same if a block is opened behind it on the
same line, whatever stands in the block (`Pattern.loop?_append`).  The recogniser tries every way in
which the line can be taken apart, so this has to be shown for each part of it: it takes the header
apart in the same way, and inside of the block it finds nothing.
-/

namespace StepScript.Pattern

/-- What is left of a header that ends with a parenthesis, and the same with a tail behind it. -/
structure Tailed (tail text other : Text) : Prop where
  same : other = text ++ tail
  last : text.getLast? = some ')'
  unbraced : '\x7b' ∉ text

/-- A tail that opens a block.  Behind a parenthesis in it nothing closes a header. -/
structure OpensBlock (tail : Text) : Prop where
  opens : ∃ inside, tail = ' ' :: '\x7b' :: inside ∧ '\n' ∉ inside
  unclosing : ∀ front behind, tail = front ++ ')' :: behind → closesHeader behind = false

/-- Results of readers that leave the same, but for the tail. -/
abbrev Leaves {α : Type} (tail : Text) : Option (α × Text) → Option (α × Text) → Prop :=
  Option.Rel fun found other => other.1 = found.1 ∧ Tailed tail found.2 other.2

/-- Nothing stands between a header and the brace behind it. -/
theorem OpensBlock.closesHeader {tail : Text} (block : OpensBlock tail) :
    closesHeader tail = true := by
  obtain ⟨inside, rfl, oneLine⟩ := block.opens
  have whole : ∀ char ∈ '\x7b' :: inside, (char != '\n') = true := by
    intro char member
    rw [bne_iff_ne]
    rintro rfl
    simp [oneLine] at member
  have line : restOfLine? ('\x7b' :: inside) = some ('\x7b' :: inside) := by
    unfold restOfLine?
    rw [List.takeWhile_eq_self_iff.mpr whole, List.dropWhile_eq_nil_iff.mpr whole]
    rfl
  have starts : (' ' :: '\x7b' :: inside).dropWhile Text.isBlank = '\x7b' :: inside := rfl
  have spoken : (restOfLine? ('\x7b' :: inside)).isSome = true := by
    rw [line]
    rfl
  unfold Pattern.closesHeader
  rw [starts]
  exact spoken

theorem bind_eq_of_rel {α β γ : Type} {related : α → β → Prop} {found : Option α}
    {other : Option β} (rel : Option.Rel related found other) {next : α → Option γ}
    {otherNext : β → Option γ}
    (same : ∀ value otherValue, related value otherValue → otherNext otherValue = next value) :
    other.bind otherNext = found.bind next := by
  cases rel with
  | none => rfl
  | some relates => exact same _ _ relates

theorem stepDigits?_eq {text rest : Text} {char : Char}
    (starts : text.dropWhile Text.isDigit = char :: rest) :
    stepDigits? text =
      if char = '.' then
        if (rest.takeWhile Text.isDigit).isEmpty then none
        else some (text.takeWhile Text.isDigit, rest.takeWhile Text.isDigit,
          rest.dropWhile Text.isDigit)
      else if (text.takeWhile Text.isDigit).isEmpty then none
      else some (text.takeWhile Text.isDigit, [], char :: rest) := by
  unfold stepDigits?
  rw [starts]
  dsimp only
  split
  next places same =>
    obtain ⟨rfl, rfl⟩ := List.cons.inj same
    rfl
  next other =>
    have whole : char ≠ '.' := fun point => other rest (by rw [point])
    rw [if_neg whole]

/-- An increment is told by its first two characters. -/
theorem increment?_eq (first second : Char) (rest : Text) :
    increment? (first :: second :: rest) =
      if first = '+' ∧ second = '+' then some (⟨false, none⟩, rest)
      else if first = '-' ∧ second = '-' then some (⟨true, none⟩, rest)
      else if second = '=' ∧ (first = '+' ∨ first = '-') then
        (stepDigits? (rest.dropWhile Text.isBlank)).map fun (whole, fraction, behind) =>
          let point := if fraction.isEmpty then [] else '.' :: fraction
          (⟨first = '-', some (rest.takeWhile Text.isBlank ++ whole ++ point,
            ⟨false, whole, fraction, 0⟩)⟩, behind)
      else none := by
  rw [increment?.eq_def]
  split
  next same => simp_all
  next same => simp_all
  next sign behind same =>
    obtain ⟨rfl, rfl, rfl⟩ : first = sign ∧ second = '=' ∧ rest = behind := by simpa using same
    by_cases signed : first = '+' ∨ first = '-'
    · simp [signed, Option.bind_eq_bind, Option.map_eq_bind]
    · simp [signed]
  next plus minus equals =>
    have added : ¬(first = '+' ∧ second = '+') := fun both => plus rest (by rw [both.1, both.2])
    have taken : ¬(first = '-' ∧ second = '-') := fun both => minus rest (by rw [both.1, both.2])
    have amount : ¬(second = '=' ∧ (first = '+' ∨ first = '-')) :=
      fun both => equals first rest (by rw [both.1])
    rw [if_neg added, if_neg taken, if_neg amount]

theorem increment?_of_closing (rest : Text) : increment? (')' :: rest) = none := by
  cases rest with
  | nil => rfl
  | cons second rest =>
    rw [increment?_eq]
    simp

namespace Tailed

variable {tail text other : Text}

theorem of_cons {char second : Char} {rest : Text}
    (tailed : Tailed tail (char :: second :: rest) other) :
    Tailed tail (second :: rest) (second :: rest ++ tail) where
  same := rfl
  last := by simpa using tailed.last
  unbraced inside := tailed.unbraced (List.mem_cons_of_mem char inside)

/-- The parenthesis is the last character that is read off the front. -/
theorem exists_cons (tailed : Tailed tail text other) :
    ∃ char rest, text = char :: rest ∧ other = char :: (rest ++ tail) ∧
      (char ≠ ')' → Tailed tail rest (rest ++ tail)) := by
  cases text with
  | nil => cases tailed.last
  | cons char rest =>
    refine ⟨char, rest, rfl, tailed.same, ?_⟩
    intro differs
    cases rest with
    | nil => exact absurd (Option.some.inj tailed.last) differs
    | cons second rest => exact tailed.of_cons

theorem dropWhile {drops : Char → Bool} (stops : drops ')' = false)
    (tailed : Tailed tail text other) :
    Tailed tail (text.dropWhile drops) (other.dropWhile drops) := by
  induction text generalizing other with
  | nil => cases tailed.last
  | cons char rest ih =>
    obtain ⟨_, _, ⟨⟩, rfl, later⟩ := tailed.exists_cons
    by_cases dropped : drops char = true
    · have differs : char ≠ ')' := by
        rintro rfl
        simp [stops] at dropped
      rw [List.dropWhile_cons_of_pos dropped, List.dropWhile_cons_of_pos dropped]
      exact ih (later differs)
    · rw [List.dropWhile_cons_of_neg dropped, List.dropWhile_cons_of_neg dropped]
      exact tailed

theorem takeWhile {drops : Char → Bool} (stops : drops ')' = false)
    (tailed : Tailed tail text other) : other.takeWhile drops = text.takeWhile drops := by
  induction text generalizing other with
  | nil => cases tailed.last
  | cons char rest ih =>
    obtain ⟨_, _, ⟨⟩, rfl, later⟩ := tailed.exists_cons
    by_cases dropped : drops char = true
    · have differs : char ≠ ')' := by
        rintro rfl
        simp [stops] at dropped
      rw [List.takeWhile_cons_of_pos dropped, List.takeWhile_cons_of_pos dropped,
        ih (later differs)]
    · rw [List.takeWhile_cons_of_neg dropped, List.takeWhile_cons_of_neg dropped]

theorem trimStart (tailed : Tailed tail text other) :
    Tailed tail (text.dropWhile Text.isBlank) (other.dropWhile Text.isBlank) :=
  tailed.dropWhile (by decide)

theorem name? (tailed : Tailed tail text other) : Leaves tail (name? text) (name? other) := by
  obtain ⟨char, rest, rfl, rfl, later⟩ := tailed.exists_cons
  unfold Pattern.name?
  dsimp only
  split
  next opens =>
    have differs : char ≠ ')' := by
      rintro rfl
      simp at opens
    have word : Text.isWord ')' = false := by decide
    exact .some ⟨by rw [(later differs).takeWhile word], (later differs).dropWhile word⟩
  next => exact .none

theorem mark? {mark : Char} (differs : mark ≠ ')') (tailed : Tailed tail text other) :
    Option.Rel (Tailed tail) (mark? mark text) (mark? mark other) := by
  obtain ⟨char, rest, starts, startsToo, later⟩ := tailed.trimStart.exists_cons
  unfold Pattern.mark?
  rw [starts, startsToo]
  dsimp only
  split
  next same => exact .some (later (same ▸ differs))
  next => exact .none

/-- Behind the last parenthesis stands the tail. -/
theorem closing (tailed : Tailed tail text other) :
    Option.Rel (fun rest otherRest => otherRest = rest ++ tail ∧
        (rest = [] ∨ Tailed tail rest otherRest))
      (Pattern.mark? ')' text) (Pattern.mark? ')' other) := by
  have left := tailed.trimStart
  obtain ⟨char, rest, starts, startsToo, _⟩ := left.exists_cons
  unfold Pattern.mark?
  rw [starts] at left
  rw [starts, startsToo]
  dsimp only
  split
  next =>
    refine .some ⟨rfl, ?_⟩
    cases rest with
    | nil => exact .inl rfl
    | cons second rest => exact .inr left.of_cons
  next => exact .none

theorem after? {start : Text} (opened : ')' ∉ start) (tailed : Tailed tail text other) :
    Option.Rel (Tailed tail) (Text.after? start text) (Text.after? start other) := by
  induction start generalizing text other with
  | nil => exact .some tailed
  | cons expected start ih =>
    rw [List.mem_cons, not_or] at opened
    obtain ⟨char, rest, rfl, rfl, later⟩ := tailed.exists_cons
    unfold Text.after?
    split
    next same => exact ih opened.2 (later (same ▸ Ne.symm opened.1))
    next => exact .none

theorem blanks? (tailed : Tailed tail text other) :
    Option.Rel (Tailed tail) (blanks? text) (blanks? other) := by
  obtain ⟨char, rest, rfl, rfl, later⟩ := tailed.exists_cons
  unfold Pattern.blanks?
  dsimp only
  split
  next blank =>
    have differs : char ≠ ')' := by
      rintro rfl
      revert blank
      decide
    exact .some (later differs).trimStart
  next => exact .none

theorem stepDigits? (tailed : Tailed tail text other) :
    Option.Rel (fun found other => other.1 = found.1 ∧ other.2.1 = found.2.1 ∧
        Tailed tail found.2.2 other.2.2) (stepDigits? text) (stepDigits? other) := by
  have digit : Text.isDigit ')' = false := by decide
  have left := tailed.dropWhile digit
  obtain ⟨char, rest, starts, startsToo, later⟩ := left.exists_cons
  rw [stepDigits?_eq starts, stepDigits?_eq startsToo, tailed.takeWhile digit]
  by_cases point : char = '.'
  · have places := later (by rw [point]; decide)
    rw [if_pos point, if_pos point, places.takeWhile digit]
    split
    · exact .none
    · exact .some ⟨rfl, rfl, places.dropWhile digit⟩
  · rw [if_neg point, if_neg point]
    split
    · exact .none
    · rw [starts, startsToo] at left
      exact .some ⟨rfl, rfl, left⟩

theorem increment? (tailed : Tailed tail text other) :
    Leaves tail (increment? text) (increment? other) := by
  obtain ⟨first, rest, rfl, rfl, later⟩ := tailed.exists_cons
  by_cases last : first = ')'
  · rw [last, increment?_of_closing, increment?_of_closing]
    exact .none
  · obtain ⟨second, more, rfl, same, behind⟩ := (later last).exists_cons
    rw [same, increment?_eq, increment?_eq]
    by_cases plus : first = '+' ∧ second = '+'
    · rw [if_pos plus, if_pos plus]
      exact .some ⟨rfl, behind (by rw [plus.2]; decide)⟩
    · rw [if_neg plus, if_neg plus]
      by_cases minus : first = '-' ∧ second = '-'
      · rw [if_pos minus, if_pos minus]
        exact .some ⟨rfl, behind (by rw [minus.2]; decide)⟩
      · rw [if_neg minus, if_neg minus]
        by_cases signed : second = '=' ∧ (first = '+' ∨ first = '-')
        · have amount := behind (by rw [signed.1]; decide)
          have blank : Text.isBlank ')' = false := by decide
          rw [if_pos signed, if_pos signed, amount.takeWhile blank]
          have digits := amount.trimStart.stepDigits?
          generalize Pattern.stepDigits? (more.dropWhile Text.isBlank) = found at digits ⊢
          generalize Pattern.stepDigits? ((more ++ tail).dropWhile Text.isBlank) = otherFound
            at digits ⊢
          cases digits with
          | none => exact .none
          | some taken =>
            obtain ⟨whole, fraction, left⟩ := taken
            refine .some ⟨?_, left⟩
            dsimp only
            rw [whole, fraction]
        · rw [if_neg signed, if_neg signed]
          exact .none

theorem closesHeader_eq_false {rest : Text} {char : Char}
    (starts : text.dropWhile Text.isBlank = char :: rest) (differs : char ≠ '\x7b') :
    closesHeader text = false := by
  unfold closesHeader
  rw [starts]
  split
  next same => cases same
  next same => exact absurd (List.cons.inj same).1 differs
  next => rfl

theorem closesHeader_eq (tailed : Tailed tail text other) :
    closesHeader other = closesHeader text := by
  obtain ⟨char, rest, starts, startsToo, _⟩ := tailed.trimStart.exists_cons
  have differs : char ≠ '\x7b' := by
    rintro rfl
    have inside : '\x7b' ∈ text.dropWhile Text.isBlank := starts ▸ List.mem_cons_self
    exact tailed.unbraced ((List.dropWhile_suffix _).subset inside)
  rw [closesHeader_eq_false starts differs, closesHeader_eq_false startsToo differs]

theorem lastClause? (block : OpensBlock tail) (tailed : Tailed tail text other) :
    lastClause? other = lastClause? text := by
  unfold Pattern.lastClause?
  apply bind_eq_of_rel tailed.trimStart.name?
  intro named otherNamed behind
  obtain ⟨stepped, afterStepped⟩ := named
  obtain ⟨otherStepped, otherAfterStepped⟩ := otherNamed
  obtain ⟨rfl, behind⟩ := behind
  apply bind_eq_of_rel behind.trimStart.increment?
  intro changed otherChanged behind
  obtain ⟨increment, afterIncrement⟩ := changed
  obtain ⟨otherIncrement, otherAfterIncrement⟩ := otherChanged
  obtain ⟨rfl, behind⟩ := behind
  apply bind_eq_of_rel behind.closing
  intro rest otherRest left
  obtain ⟨rfl, rfl | later⟩ := left
  · rw [List.nil_append, block.closesHeader]
    rfl
  · rw [later.closesHeader_eq]

end Tailed

/-! ## Inside of the block -/

section Suffix

variable {text rest : Text}

theorem suffix_of_name? {name : Text} (found : name? text = some (name, rest)) :
    rest <:+ text := by
  unfold name? at found
  split at found
  · cases found
  next char behind =>
    split at found
    · cases found
      exact (List.dropWhile_suffix _).trans (List.suffix_cons char behind)
    · cases found

theorem suffix_of_mark? {mark : Char} (found : mark? mark text = some rest) :
    mark :: rest <:+ text := by
  unfold mark? at found
  split at found
  · cases found
  next char behind starts =>
    split at found
    next same =>
      cases found
      exact same ▸ starts ▸ List.dropWhile_suffix _
    next => cases found

theorem suffix_of_stepDigits? {whole fraction : Text}
    (found : stepDigits? text = some (whole, fraction, rest)) : rest <:+ text := by
  unfold stepDigits? at found
  dsimp only at found
  split at found
  next places starts =>
    split at found
    · cases found
    · cases found
      have inside : '.' :: places <:+ text := starts ▸ List.dropWhile_suffix _
      exact (List.dropWhile_suffix _).trans ((List.suffix_cons '.' places).trans inside)
  next =>
    split at found
    · cases found
    · cases found
      exact List.dropWhile_suffix _

theorem suffix_of_increment? {increment : Increment}
    (found : increment? text = some (increment, rest)) : rest <:+ text := by
  rw [increment?.eq_def] at found
  split at found
  next behind =>
    cases found
    exact (List.suffix_cons _ _).trans (List.suffix_cons _ _)
  next behind =>
    cases found
    exact (List.suffix_cons _ _).trans (List.suffix_cons _ _)
  next sign behind =>
    simp only [Option.bind_eq_bind, Option.bind_eq_some_iff, Prod.exists, Option.pure_def,
      Option.some.injEq, Prod.mk.injEq] at found
    obtain ⟨_, _, whole, fraction, left, digits, _, rfl⟩ := found
    have inside := (suffix_of_stepDigits? digits).trans (List.dropWhile_suffix _)
    exact inside.trans ((List.suffix_cons _ _).trans (List.suffix_cons _ _))
  next => cases found

end Suffix

section Block

variable {α : Type} {tail text : Text}

theorem lastClause?_of_suffix (block : OpensBlock tail) (inside : text <:+ tail) :
    lastClause? text = none := by
  rw [Option.eq_none_iff_forall_ne_some]
  intro found clause
  simp only [lastClause?, Option.bind_eq_bind, Option.bind_eq_some_iff, Prod.exists] at clause
  obtain ⟨stepped, afterStepped, named, increment, afterIncrement, changed, behind, marked, _,
    closes, _⟩ := clause
  have left : ')' :: behind <:+ tail :=
    (suffix_of_mark? marked).trans ((suffix_of_increment? changed).trans
      ((List.dropWhile_suffix _).trans ((suffix_of_name? named).trans
        ((List.dropWhile_suffix _).trans inside))))
  obtain ⟨front, whole⟩ := left
  rw [block.unclosing front behind whole.symm] at closes
  cases closes

theorem afterBlanks_of_suffix {next : Text → Option α}
    (fails : ∀ rest, rest <:+ tail → next rest = none) (inside : text <:+ tail) :
    afterBlanks next text = none := by
  induction text with
  | nil => exact fails [] inside
  | cons char rest ih =>
    unfold afterBlanks
    rw [fails _ inside, ih ((List.suffix_cons char rest).trans inside)]
    exact ite_self none

theorem mark?_bind_of_suffix {mark : Char} {next : Text → Option α}
    (fails : ∀ rest, rest <:+ tail → next rest = none) (inside : text <:+ tail) :
    (mark? mark text).bind next = none := by
  cases marked : mark? mark text with
  | none => rfl
  | some rest =>
    exact fails rest ((List.suffix_cons mark rest).trans ((suffix_of_mark? marked).trans inside))

theorem clauseFrom_of_suffix {next : Text → Text → Option α}
    (fails : ∀ taken rest, rest <:+ tail → next taken rest = none) (taken : Text)
    (inside : text <:+ tail) : clauseFrom next taken text = none := by
  induction text generalizing taken with
  | nil => rfl
  | cons char rest ih =>
    have later := (List.suffix_cons char rest).trans inside
    unfold clauseFrom
    dsimp only
    rw [ih (char :: taken) later, mark?_bind_of_suffix (fails _) later]
    exact ite_self none

theorem clause_of_suffix {next : Text → Text → Option α}
    (fails : ∀ taken rest, rest <:+ tail → next taken rest = none) (inside : text <:+ tail) :
    clause next text = none :=
  afterBlanks_of_suffix (fun _ within => clauseFrom_of_suffix fails [] within) inside

/-- A comparison symbol is told by its first two characters. -/
theorem comparator_eq (next : Comparator → Text → Option α) (first second : Char) (rest : Text) :
    comparator next (first :: second :: rest) =
      if first = '<' then
        if second = '=' then next .atMost rest <|> next .less ('=' :: rest)
        else next .less (second :: rest)
      else if first = '>' then
        if second = '=' then next .atLeast rest <|> next .greater ('=' :: rest)
        else next .greater (second :: rest)
      else if first = '=' ∧ second = '=' then next .equal rest
      else if first = '!' ∧ second = '=' then next .unequal rest
      else none := by
  rw [comparator.eq_def]
  split
  next same => simp_all
  next same => simp_all
  next same => simp_all
  next same => simp_all
  next behind single same =>
    obtain ⟨rfl, rfl⟩ : first = '<' ∧ second :: rest = behind := by simpa using same
    have differs : second ≠ '=' := fun equals => single rest (by rw [equals])
    rw [if_pos rfl, if_neg differs]
  next behind single same =>
    obtain ⟨rfl, rfl⟩ : first = '>' ∧ second :: rest = behind := by simpa using same
    have differs : second ≠ '=' := fun equals => single rest (by rw [equals])
    rw [if_neg (by decide), if_pos rfl, if_neg differs]
  next equal unequal less greater =>
    have noLess : first ≠ '<' := fun opens => less (second :: rest) (by rw [opens])
    have noGreater : first ≠ '>' := fun opens => greater (second :: rest) (by rw [opens])
    have noEqual : ¬(first = '=' ∧ second = '=') :=
      fun both => equal rest (by rw [both.1, both.2])
    have noUnequal : ¬(first = '!' ∧ second = '=') :=
      fun both => unequal rest (by rw [both.1, both.2])
    rw [if_neg noLess, if_neg noGreater, if_neg noEqual, if_neg noUnequal]

theorem comparator_of_suffix {next : Comparator → Text → Option α}
    (fails : ∀ compared rest, rest <:+ tail → next compared rest = none)
    (inside : text <:+ tail) : comparator next text = none := by
  cases text with
  | nil => rfl
  | cons first rest =>
    have later := (List.suffix_cons first rest).trans inside
    cases rest with
    | nil =>
      rw [comparator.eq_def]
      split <;> simp_all
    | cons second rest =>
      have behind := (List.suffix_cons second rest).trans later
      rw [comparator_eq]
      split
      · split
        next equals => rw [fails _ _ behind, fails _ _ (equals ▸ later)]; rfl
        next => exact fails _ _ later
      · split
        · split
          next equals => rw [fails _ _ behind, fails _ _ (equals ▸ later)]; rfl
          next => exact fails _ _ later
        · split
          · exact fails _ _ behind
          · split
            · exact fails _ _ behind
            · rfl

theorem laterClauses?_of_suffix (block : OpensBlock tail) (counter start : Text)
    (inside : text <:+ tail) : laterClauses? counter start text = none := by
  unfold laterClauses?
  cases named : name? (text.dropWhile Text.isBlank) with
  | none => rfl
  | some found =>
    obtain ⟨tested, rest⟩ := found
    have left : rest.dropWhile Text.isBlank <:+ tail :=
      (List.dropWhile_suffix _).trans ((suffix_of_name? named).trans
        ((List.dropWhile_suffix _).trans inside))
    simp only [Option.bind_eq_bind, Option.bind_some]
    apply comparator_of_suffix _ left
    intro compared behind within
    apply clause_of_suffix _ within
    intro bound last ends
    rw [lastClause?_of_suffix block ends]
    rfl

end Block

/-! ## The whole header -/

namespace Tailed

variable {α : Type} {tail text other : Text}

theorem afterBlanks {next : Text → Option α}
    (same : ∀ text other, Tailed tail text other → next other = next text)
    (tailed : Tailed tail text other) : afterBlanks next other = afterBlanks next text := by
  induction text generalizing other with
  | nil => cases tailed.last
  | cons char rest ih =>
    obtain ⟨_, _, ⟨⟩, rfl, later⟩ := tailed.exists_cons
    unfold Pattern.afterBlanks
    rw [same _ _ tailed]
    split
    next blank =>
      have differs : char ≠ ')' := by
        rintro rfl
        revert blank
        decide
      rw [ih (later differs)]
    next => rfl

theorem clauseFrom {next : Text → Text → Option α}
    (same : ∀ taken text other, Tailed tail text other → next taken other = next taken text)
    (fails : ∀ taken rest, rest <:+ tail → next taken rest = none) (taken : Text)
    (tailed : Tailed tail text other) :
    clauseFrom next taken other = clauseFrom next taken text := by
  induction text generalizing other taken with
  | nil => cases tailed.last
  | cons char rest ih =>
    rw [tailed.same, List.cons_append]
    cases rest with
    | nil =>
      -- Behind the parenthesis there is nothing, or the tail.
      rw [List.nil_append]
      unfold Pattern.clauseFrom
      dsimp only
      rw [clauseFrom_of_suffix fails (char :: taken) List.suffix_rfl,
        mark?_bind_of_suffix (fails _) List.suffix_rfl]
      rfl
    | cons second rest =>
      have later := tailed.of_cons
      unfold Pattern.clauseFrom
      dsimp only
      rw [ih (char :: taken) later, bind_eq_of_rel (later.mark? (by decide)) (same _)]

theorem clause {next : Text → Text → Option α}
    (same : ∀ taken text other, Tailed tail text other → next taken other = next taken text)
    (fails : ∀ taken rest, rest <:+ tail → next taken rest = none)
    (tailed : Tailed tail text other) : clause next other = clause next text :=
  tailed.afterBlanks fun _ _ within => within.clauseFrom same fails []

theorem comparator {next : Comparator → Text → Option α}
    (same : ∀ compared text other, Tailed tail text other →
      next compared other = next compared text)
    (tailed : Tailed tail text other) : comparator next other = comparator next text := by
  obtain ⟨first, rest, rfl, rfl, later⟩ := tailed.exists_cons
  by_cases last : first = ')'
  · rw [last]
    rfl
  · have left := later last
    obtain ⟨second, more, rfl, whole, behind⟩ := left.exists_cons
    rw [whole] at left ⊢
    rw [comparator_eq, comparator_eq, same .less _ _ left, same .greater _ _ left]
    by_cases equals : second = '='
    · have further := behind (by rw [equals]; decide)
      rw [equals] at left
      rw [same .atMost _ _ further, same .atLeast _ _ further, same .equal _ _ further,
        same .unequal _ _ further, same .less _ _ left, same .greater _ _ left]
    · simp only [equals, and_false, if_false]

theorem laterClauses? (block : OpensBlock tail) (counter start : Text)
    (tailed : Tailed tail text other) :
    laterClauses? counter start other = laterClauses? counter start text := by
  unfold Pattern.laterClauses?
  apply bind_eq_of_rel tailed.trimStart.name?
  intro named otherNamed behind
  obtain ⟨tested, rest⟩ := named
  obtain ⟨otherTested, otherRest⟩ := otherNamed
  obtain ⟨rfl, behind⟩ := behind
  apply behind.trimStart.comparator
  intro compared text other within
  apply within.clause
  · intro bound text other ends
    rw [ends.lastClause? block]
  · intro bound rest ends
    rw [lastClause?_of_suffix block ends]
    rfl

theorem headerParts? (block : OpensBlock tail) (tailed : Tailed tail text other) :
    headerParts? other = headerParts? text := by
  unfold Pattern.headerParts?
  apply bind_eq_of_rel tailed.name?
  intro named otherNamed behind
  obtain ⟨counter, rest⟩ := named
  obtain ⟨otherCounter, otherRest⟩ := otherNamed
  obtain ⟨rfl, behind⟩ := behind
  apply bind_eq_of_rel (behind.mark? (by decide))
  intro text other within
  exact within.clause (fun start _ _ further => further.laterClauses? block otherCounter start)
    (fun start _ ends => laterClauses?_of_suffix block otherCounter start ends)

theorem header? (block : OpensBlock tail) (tailed : Tailed tail text other) :
    header? other = header? text := by
  unfold Pattern.header?
  apply bind_eq_of_rel (tailed.after? (by decide))
  intro text other behind
  apply bind_eq_of_rel (behind.mark? (by decide))
  intro text other within
  have first := within.trimStart
  have declared (keyword : Keyword) (opened : ')' ∉ keyword.spelling) :
      ((Text.after? keyword.spelling (other.dropWhile Text.isBlank)).bind fun rest =>
          (Pattern.blanks? rest).bind Pattern.headerParts?) =
        (Text.after? keyword.spelling (text.dropWhile Text.isBlank)).bind fun rest =>
          (Pattern.blanks? rest).bind Pattern.headerParts? := by
    apply bind_eq_of_rel (first.after? opened)
    intro text other further
    exact bind_eq_of_rel further.blanks? fun _ _ ends => ends.headerParts? block
  have letWord := declared .letWord (by decide)
  have varWord := declared .varWord (by decide)
  dsimp only [Option.bind_eq_bind]
  rw [letWord, varWord, first.headerParts? block]

end Tailed

/-- A header that ends with its parenthesis opens the same loop with a block behind it. -/
theorem loop?_append {text tail : Text} (last : text.getLast? = some ')')
    (unbraced : '\x7b' ∉ text) (block : OpensBlock tail) : loop? (text ++ tail) = loop? text := by
  have tailed : Tailed tail text (text ++ tail) := ⟨rfl, last, unbraced⟩
  unfold loop?
  rw [tailed.header? block]

/-! ## Blocks behind a header -/

theorem OpensBlock.opened : OpensBlock [' ', '\x7b'] where
  opens := ⟨[], rfl, List.not_mem_nil⟩
  unclosing := by
    intro front behind whole
    have inside : ')' ∈ [' ', '\x7b'] := whole ▸ List.mem_append_right front List.mem_cons_self
    exact absurd inside (by decide)

/-- A block without an opening brace inside can be closed on the line of its header. -/
theorem OpensBlock.closed {inside : Text} (oneLine : '\n' ∉ inside) (unbraced : '\x7b' ∉ inside) :
    OpensBlock (' ' :: '\x7b' :: (inside ++ ['\x7d'])) where
  opens := ⟨inside ++ ['\x7d'], rfl, by simp [oneLine]⟩
  unclosing := by
    intro front behind whole
    have reach : ')' :: behind <:+ ' ' :: '\x7b' :: (inside ++ ['\x7d']) := ⟨front, whole.symm⟩
    obtain same | further := List.suffix_cons_iff.mp reach
    · cases (List.cons.inj same).1
    obtain same | within := List.suffix_cons_iff.mp further
    · cases (List.cons.inj same).1
    obtain nothing | ⟨left, same, taken⟩ := List.suffix_concat_iff.mp within
    · cases nothing
    cases left with
    | nil => cases same
    | cons char left =>
      obtain ⟨rfl, rfl⟩ := List.cons.inj same
      have plain : '\x7b' ∉ left ++ ['\x7d'] := by
        simpa using fun member => unbraced (taken.subset (List.mem_cons_of_mem _ member))
      cases starts : (left ++ ['\x7d']).dropWhile Text.isBlank with
      | nil =>
        have blank := List.dropWhile_eq_nil_iff.mp starts '\x7d' (by simp)
        exact absurd blank (by decide)
      | cons first rest =>
        have member : first ∈ left ++ ['\x7d'] :=
          (List.dropWhile_suffix _).subset (starts ▸ List.mem_cons_self)
        apply Tailed.closesHeader_eq_false starts
        rintro rfl
        exact plain member

end StepScript.Pattern

namespace StepScript

/-! ## Lines with a header -/

theorem loop?_of_classify {line : Text} {header : LoopHeader}
    (classified : classify line = .ok (.loop header)) :
    Pattern.loop? (stripStatement line) = .ok (some (.loop header)) := by
  have said := classify_essence line
  rw [classified] at said
  generalize stripStatement line = text at said ⊢
  unfold classifyStripped at said
  split at said
  next => cases said
  split at said
  next statement found =>
    simp only [Pattern.declaration?, Option.bind_eq_bind, Option.bind_eq_some_iff,
      Option.pure_def] at found
    obtain ⟨_, _, _, _, _, _, _, _, ⟨⟩⟩ := found
    cases said
  split at said
  next => cases said
  next statement found =>
    obtain ⟨other, rfl⟩ := Pattern.exists_of_loop? found
    cases said
    exact found
  next =>
    cases condition : Pattern.conditional? text with
    | some statement =>
      obtain ⟨_, rfl⟩ := Pattern.exists_of_conditional? condition
      simp [condition, Except.map, Statement.essence] at said
    | none =>
      cases assignment : Pattern.assignment? text with
      | some statement =>
        obtain ⟨_, _, _, rfl⟩ := Pattern.exists_of_assignment? assignment
        simp [condition, assignment, Except.map, Statement.essence] at said
      | none => simp [condition, assignment, Except.map, Statement.essence] at said

theorem classify_of_loop? {line : Text} {header : LoopHeader}
    (found : Pattern.loop? (stripStatement line) = .ok (some (.loop header))) :
    classify line = .ok (.loop header) := by
  refine Form.classify_of_stripped ?_ fun other same => ?_
  · have starts : (stripStatement line).head? = some 'f' := by
      unfold Pattern.loop? at found
      split at found
      next => cases found
      next parts spelled => exact Pattern.head?_of_header? spelled
    have spoken : (stripStatement line).isEmpty = false := by
      cases text : stripStatement line with
      | nil => simp [text] at starts
      | cons => rfl
    rw [classifyStripped, spoken, Pattern.declaration?_eq_none starts, found]
    rfl
  · cases other <;> first | exact same | cases same

end StepScript

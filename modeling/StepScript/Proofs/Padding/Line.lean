import Mathlib
import StepScript.Block
import StepScript.Statement.Classify

/-!
# What a line does not say

Blanks and semicolons at the end of a line, and a comment behind them, do not change what the line
says: everything that reads a line reads it stripped.  What a line says is therefore a function of
the stripped line, up to the text that is kept of comments and of unrecognized lines.
-/

namespace StepScript

namespace Text

/-- Blanks and semicolons. -/
def isPadding (char : Char) : Bool :=
  char == ';' || isBlank char

theorem isPadding_of_isBlank {char : Char} (blank : isBlank char = true) : isPadding char = true :=
  Bool.or_eq_true_iff.mpr (.inr blank)

theorem ne_slash_of_isPadding {char : Char} (padding : isPadding char = true) : char ≠ '/' := by
  rintro rfl
  revert padding
  decide

theorem dropEnd_append_of_all {drops : Char → Bool} {tail : Text}
    (dropped : ∀ char ∈ tail, drops char = true) (kept : Text) :
    dropEnd drops (kept ++ tail) = dropEnd drops kept := by
  have backwards : ∀ char ∈ tail.reverse, drops char = true := by simpa using dropped
  rw [dropEnd, List.reverse_append, List.dropWhile_append_of_pos backwards, dropEnd]

theorem dropEnd_eq_nil_of_all {drops : Char → Bool} {text : Text}
    (dropped : ∀ char ∈ text, drops char = true) : dropEnd drops text = [] :=
  dropEnd_append_of_all dropped []

/-- Nothing is cut behind a character that is kept. -/
theorem dropEnd_concat {drops : Char → Bool} {char : Char} (kept : drops char = false)
    (front : Text) : dropEnd drops (front ++ [char]) = front ++ [char] := by
  rw [dropEnd, List.reverse_concat, List.dropWhile_cons_of_neg (by simp [kept]),
    ← List.reverse_concat, List.reverse_reverse]

/-- Only characters of the class are cut from the end of a text. -/
theorem dropEnd_append (drops : Char → Bool) (text : Text) :
    ∃ tail, text = dropEnd drops text ++ tail ∧ ∀ char ∈ tail, drops char = true := by
  refine ⟨(text.reverse.takeWhile drops).reverse, ?_, ?_⟩
  · rw [dropEnd, ← List.reverse_append, List.takeWhile_append_dropWhile, List.reverse_reverse]
  · intro char member
    exact List.mem_takeWhile_imp (List.mem_reverse.mp member)

theorem dropEnd_isPrefix (drops : Char → Bool) (text : Text) : dropEnd drops text <+: text := by
  obtain ⟨tail, whole, _⟩ := dropEnd_append drops text
  exact ⟨tail, whole.symm⟩

/-- What is left of a text does not end with a character of the class. -/
theorem last_of_dropEnd {drops : Char → Bool} {text : Text} {char : Char}
    (last : (dropEnd drops text).getLast? = some char) : drops char = false := by
  have head := List.head?_dropWhile_not drops text.reverse
  rw [dropEnd, List.getLast?_reverse] at last
  simpa [last] using head

theorem trimStart_trimStart (text : Text) : trimStart (trimStart text) = trimStart text :=
  List.dropWhile_idempotent isBlank text

end Text

/-- A text that may stand behind a line: blanks and semicolons, and possibly a comment behind a
space. -/
def IsFiller (text : Text) : Prop :=
  ∃ padding comment, text = padding ++ comment ∧ (∀ char ∈ padding, Text.isPadding char = true) ∧
    (comment = [] ∨ ∃ words, comment = ' ' :: '/' :: '/' :: words)

/-- A line that may stand between others: blanks and semicolons, and possibly a comment. -/
def IsInert (text : Text) : Prop :=
  ∃ padding comment, text = padding ++ comment ∧ (∀ char ∈ padding, Text.isPadding char = true) ∧
    (comment = [] ∨ ∃ words, comment = '/' :: '/' :: words)

/-- The space in front of a comment is a blank like others. -/
theorem IsFiller.isInert {text : Text} (filler : IsFiller text) : IsInert text := by
  rcases filler with ⟨padding, comment, rfl, padded, rfl | ⟨words, rfl⟩⟩
  · exact ⟨padding, [], rfl, padded, .inl rfl⟩
  · refine ⟨padding ++ [' '], '/' :: '/' :: words, by simp, ?_, .inr ⟨words, rfl⟩⟩
    intro char member
    rcases List.mem_append.mp member with inside | last
    · exact padded char inside
    · rw [List.mem_singleton.mp last]
      decide

theorem IsFiller.of_padding {text : Text} (padded : ∀ char ∈ text, Text.isPadding char = true) :
    IsFiller text :=
  ⟨text, [], by simp, padded, .inl rfl⟩

theorem IsFiller.head_ne_slash {char : Char} {rest : Text} (filler : IsFiller (char :: rest)) :
    char ≠ '/' := by
  rcases filler with ⟨padding, comment, same, padded, absent | ⟨words, rfl⟩⟩
  · rw [absent, List.append_nil] at same
    have inside : char ∈ padding := same ▸ List.mem_cons_self
    exact Text.ne_slash_of_isPadding (padded char inside)
  · cases padding with
    | nil =>
      rw [(List.cons.inj same).1]
      decide
    | cons first padding =>
      rw [(List.cons.inj same).1]
      exact Text.ne_slash_of_isPadding (padded first List.mem_cons_self)

open stripStatement (beforeComment)

theorem beforeComment_cons {char : Char} {rest : Text}
    (plain : ¬(char = '/' ∧ rest.head? = some '/')) :
    beforeComment (char :: rest) = char :: beforeComment rest := by
  rw [beforeComment]
  rintro others rfl same
  simp [same] at plain

theorem exists_comment (text : Text) : ∃ comment, text = beforeComment text ++ comment ∧
    (comment = [] ∨ ∃ words, comment = '/' :: '/' :: words) := by
  fun_induction beforeComment text with
  | case1 words => exact ⟨'/' :: '/' :: words, rfl, .inr ⟨words, rfl⟩⟩
  | case2 char rest _ ih =>
    obtain ⟨comment, whole, commented⟩ := ih
    exact ⟨comment, congrArg (List.cons char) whole, commented⟩
  | case3 => exact ⟨[], rfl, .inl rfl⟩

theorem beforeComment_isPrefix (text : Text) : beforeComment text <+: text := by
  obtain ⟨comment, whole, _⟩ := exists_comment text
  exact ⟨comment, whole.symm⟩

theorem stripStatement_isPrefix (line : Text) : stripStatement line <+: Text.trimStart line :=
  (Text.dropEnd_isPrefix _ _).trans (beforeComment_isPrefix _)

theorem stripStatement_isInfix (line : Text) : stripStatement line <:+: line :=
  (stripStatement_isPrefix line).isInfix.trans (List.dropWhile_suffix Text.isBlank).isInfix

theorem IsInert.isPadding_of_mem {text : Text} (inert : IsInert text) :
    ∀ char ∈ beforeComment text, Text.isPadding char = true := by
  rcases inert with ⟨padding, comment, rfl, padded, commented⟩
  induction padding with
  | nil => rcases commented with rfl | ⟨words, rfl⟩ <;> simp [beforeComment]
  | cons first padding ih =>
    have spaced : Text.isPadding first = true := padded first List.mem_cons_self
    have first_ne := Text.ne_slash_of_isPadding spaced
    rw [List.cons_append, beforeComment_cons (by simp [first_ne])]
    intro char member
    rcases List.mem_cons.mp member with rfl | later
    · exact spaced
    · exact ih (fun char inside => padded char (List.mem_cons_of_mem first inside)) char later

theorem IsInert.trimStart {text : Text} (inert : IsInert text) : IsInert (Text.trimStart text) := by
  rcases inert with ⟨padding, comment, rfl, padded, commented⟩
  induction padding with
  | nil =>
    refine ⟨[], comment, ?_, by simp, commented⟩
    rcases commented with rfl | ⟨words, rfl⟩
    · rfl
    · exact List.dropWhile_cons_of_neg (by decide)
  | cons first padding ih =>
    have later : ∀ char ∈ padding, Text.isPadding char = true :=
      fun char inside => padded char (List.mem_cons_of_mem first inside)
    by_cases blank : Text.isBlank first = true
    · rw [List.cons_append, Text.trimStart, List.dropWhile_cons_of_pos blank]
      exact ih later
    · rw [List.cons_append, Text.trimStart, List.dropWhile_cons_of_neg blank]
      exact ⟨first :: padding, comment, rfl, padded, commented⟩

theorem IsInert.stripStatement {text : Text} (inert : IsInert text) : stripStatement text = [] :=
  Text.dropEnd_eq_nil_of_all inert.trimStart.isPadding_of_mem

theorem beforeComment_append {filler : Text} (fills : IsFiller filler) (text : Text) :
    ∃ tail, beforeComment (text ++ filler) = beforeComment text ++ tail ∧
      ∀ char ∈ tail, Text.isPadding char = true := by
  fun_induction beforeComment text with
  | case1 words => exact ⟨[], by simp [beforeComment], by simp⟩
  | case2 char rest plain ih =>
    rcases ih with ⟨tail, same, padded⟩
    refine ⟨tail, ?_, padded⟩
    rw [List.cons_append, beforeComment_cons, same, List.cons_append]
    rintro ⟨rfl, slash⟩
    cases rest with
    | nil =>
      cases filler with
      | nil => simp at slash
      | cons first filler => exact fills.head_ne_slash (by simpa using slash)
    | cons next rest => exact plain rest rfl (by simpa using slash)
  | case3 => exact ⟨beforeComment filler, by simp, fills.isInert.isPadding_of_mem⟩

theorem stripStatement_append {filler : Text} (fills : IsFiller filler) (line : Text) :
    stripStatement (line ++ filler) = stripStatement line := by
  by_cases blank : ∀ char ∈ line, Text.isBlank char = true
  · have inert : IsInert line :=
      (IsFiller.of_padding fun char member => Text.isPadding_of_isBlank (blank char member)).isInert
    rw [inert.stripStatement, stripStatement, Text.trimStart, List.dropWhile_append_of_pos blank]
    exact fills.isInert.stripStatement
  · have spoken : Text.trimStart line ≠ [] := by
      simpa [Text.trimStart, List.dropWhile_eq_nil_iff] using blank
    have trimmed : Text.trimStart (line ++ filler) = Text.trimStart line ++ filler := by
      rw [Text.trimStart, List.dropWhile_append, if_neg (by simpa [Text.trimStart] using spoken)]
      rfl
    rcases beforeComment_append fills (Text.trimStart line) with ⟨tail, same, padded⟩
    rw [stripStatement, trimmed, same]
    exact Text.dropEnd_append_of_all padded _

theorem stripStatement_trimStart (line : Text) :
    stripStatement (Text.trimStart line) = stripStatement line := by
  rw [stripStatement, Text.trimStart_trimStart, stripStatement]

/-- The blanks around a line are stripped as well. -/
theorem stripStatement_trim (line : Text) :
    stripStatement (Text.trim line) = stripStatement line := by
  rcases Text.dropEnd_append Text.isBlank (Text.trimStart line) with ⟨tail, whole, blank⟩
  have fills : IsFiller tail :=
    .of_padding fun char member => Text.isPadding_of_isBlank (blank char member)
  rw [← stripStatement_trimStart line, Text.trim]
  conv_rhs => rw [whole]
  exact (stripStatement_append fills _).symm

theorem isBraceOnly_of_strip_eq {line other : Text}
    (same : stripStatement other = stripStatement line) : isBraceOnly other = isBraceOnly line := by
  rw [isBraceOnly, same, isBraceOnly]

theorem isBraceOnly_of_strip_nil {line : Text} (nothing : stripStatement line = []) :
    isBraceOnly line = true := by
  rw [isBraceOnly, nothing]

/-! ## Classification -/

/-- A statement without what is only kept as text. -/
def Statement.essence : Statement → Statement
  | .comment _ => .blank
  | .unrecognized _ => .unrecognized []
  | statement => statement

/-- What a stripped line says. -/
def classifyStripped (text : Text) : Except Breakdown Statement :=
  if text.isEmpty then .ok .blank
  else
    match Pattern.declaration? text with
    | some statement => .ok statement
    | none =>
      match Pattern.loop? text with
      | .error breakdown => .error breakdown
      | .ok (some statement) => .ok statement
      | .ok none =>
        .ok ((Pattern.conditional? text <|> Pattern.assignment? text).getD (.unrecognized []))

theorem classify_essence (line : Text) : (classify line).map Statement.essence =
    (classifyStripped (stripStatement line)).map Statement.essence := by
  rw [← stripStatement_trim line, classify]
  generalize Text.trim line = raw
  dsimp only
  split
  · rfl
  next comment =>
    have inert : IsInert ('/' :: '/' :: comment) := ⟨[], _, rfl, by simp, .inr ⟨comment, rfl⟩⟩
    rw [inert.stripStatement]
    rfl
  · unfold classifyStripped
    split
    · rfl
    · cases Pattern.declaration? (stripStatement raw) with
      | some statement => rfl
      | none =>
        rcases Pattern.loop? (stripStatement raw) with cause | statement | statement
        · rfl
        · cases Pattern.conditional? (stripStatement raw) <|>
            Pattern.assignment? (stripStatement raw) <;> rfl
        · rfl

/-- Lines that are the same when stripped say the same, in essence. -/
theorem classify_essence_eq {line other : Text}
    (same : stripStatement other = stripStatement line) :
    (classify other).map Statement.essence = (classify line).map Statement.essence := by
  rw [classify_essence, same, classify_essence]

theorem classify_of_essence {line : Text} {statement : Statement}
    (said : (classify line).map Statement.essence = .ok statement.essence)
    (told : ∀ found : Statement, found.essence = statement.essence → found = statement) :
    classify line = .ok statement := by
  cases found : classify line with
  | error cause => simp [found, Except.map] at said
  | ok other => rw [told other (by simpa [found, Except.map] using said)]

/-- Lines of the same stripped text say the same, if what they say is told by its essence. -/
theorem classify_of_strip_eq {line other : Text} {statement : Statement}
    (same : stripStatement other = stripStatement line) (classified : classify line = .ok statement)
    (told : ∀ found : Statement, found.essence = statement.essence → found = statement) :
    classify other = .ok statement :=
  classify_of_essence (by rw [classify_essence_eq same, classified]; rfl) told

/-- A line of which nothing is left says nothing. -/
theorem classify_of_strip_nil {line : Text} (nothing : stripStatement line = []) :
    ∃ statement, classify line = .ok statement ∧ statement.essence = .blank := by
  have said := classify_essence line
  rw [nothing] at said
  cases found : classify line with
  | error cause => simp [found, classifyStripped, Except.map] at said
  | ok statement => exact ⟨statement, rfl, by
    simpa [found, classifyStripped, Except.map, Statement.essence] using said⟩

end StepScript

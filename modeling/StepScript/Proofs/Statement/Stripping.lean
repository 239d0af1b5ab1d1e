import StepScript.Proofs.Statement.Form

/-!
# Stripped texts

What is left of a line when it is stripped neither begins nor ends with a blank, ends with no
semicolon and holds no comment.  Nothing can be stripped from a text of this kind, so a line says
the same however often it is stripped before it is read (`stripStatement_normalForm`).  Only the
text that is kept of an unrecognized line is that of the line itself.
-/

namespace StepScript

open stripStatement (beforeComment)

structure IsStripped (text : Text) : Prop where
  starts : ∀ char, text.head? = some char → Text.isBlank char = false
  ends : ∀ char, text.getLast? = some char → Text.isBlank char = false ∧ char ≠ ';'
  uncommented : ¬['/', '/'] <:+: text

/-! ## What is left of a line -/

theorem uncommented_beforeComment (text : Text) : Text.Uncommented (beforeComment text) := by
  fun_induction beforeComment text with
  | case1 => exact .nil
  | case2 char rest plain ih =>
    refine List.isChain_cons.mpr ⟨?_, ih⟩
    rintro second found ⟨slash, rfl⟩
    obtain ⟨behind, opens⟩ := List.head?_eq_some_iff.mp found
    obtain ⟨comment, whole, _⟩ := exists_comment rest
    rw [opens] at whole
    exact plain (behind ++ comment) slash whole
  | case3 => exact .nil

/-- What is left of a line is a stripped text. -/
theorem isStripped_stripStatement (line : Text) : IsStripped (stripStatement line) where
  starts char first := by
    obtain ⟨rest, whole⟩ := stripStatement_isPrefix line
    have head := List.head?_dropWhile_not Text.isBlank line
    rw [show line.dropWhile Text.isBlank = stripStatement line ++ rest from whole.symm,
      List.head?_append, first] at head
    exact head
  ends char last := by
    have kept : Text.isPadding char = false := Text.last_of_dropEnd last
    rw [Text.isPadding, Bool.or_eq_false_iff, beq_eq_false_iff_ne] at kept
    exact kept.symm
  uncommented marker :=
    (uncommented_beforeComment _).no_marker (marker.trans (Text.dropEnd_isPrefix _ _).isInfix)

theorem IsStripped.stripStatement {text : Text} (stripped : IsStripped text) :
    stripStatement text = text := by
  refine Form.stripStatement_eq ?_ (.of_no_marker stripped.uncommented) ?_
  · cases text with
    | nil => rfl
    | cons char rest =>
      exact List.dropWhile_cons_of_neg (by simp [stripped.starts char rfl])
  · rcases List.eq_nil_or_concat' text with rfl | ⟨front, char, rfl⟩
    · rfl
    · obtain ⟨visible, unterminated⟩ := stripped.ends char List.getLast?_concat
      exact Text.dropEnd_concat (by simp [Text.isPadding, visible, unterminated]) front

/-- Blanks around a line are stripped first. -/
theorem stripStatement_eq_dropEnd (line : Text) :
    stripStatement line = Text.dropEnd Text.isPadding (beforeComment (Text.trim line)) := by
  rw [← stripStatement_trim, stripStatement, Text.trimStart_of_trim (Text.trim_trim line)]
  rfl

/-- What is stripped behind a line is padding, and behind that possibly a comment. -/
theorem exists_remainder (line : Text) :
    ∃ remainder, Text.trim line = stripStatement line ++ remainder ∧ IsInert remainder := by
  obtain ⟨comment, whole, commented⟩ := exists_comment (Text.trim line)
  obtain ⟨padding, kept, padded⟩ :=
    Text.dropEnd_append Text.isPadding (beforeComment (Text.trim line))
  refine ⟨padding ++ comment, ?_, padding, comment, rfl, padded, commented⟩
  rw [stripStatement_eq_dropEnd, ← List.append_assoc, ← kept, ← whole]

/-- A comment is cut off at its first slashes. -/
theorem beforeComment_comment_isPrefix (front words : Text) :
    beforeComment (front ++ '/' :: '/' :: words) <+: front := by
  induction front with
  | nil => exact List.prefix_rfl
  | cons char front ih =>
    by_cases plain : char = '/' ∧ (front ++ '/' :: '/' :: words).head? = some '/'
    · obtain ⟨rfl, slash⟩ := plain
      obtain ⟨behind, opens⟩ := List.head?_eq_some_iff.mp slash
      rw [List.cons_append, opens, beforeComment]
      exact List.nil_prefix
    · rw [List.cons_append, beforeComment_cons plain]
      exact (List.prefix_cons_inj char).mpr ih

theorem stripStatement_isPrefix_of_inert {line text remainder : Text}
    (whole : Text.trim line = text ++ remainder) (inert : IsInert remainder) :
    stripStatement line <+: text := by
  obtain ⟨padding, comment, rfl, padded, commented⟩ := inert
  have cut : beforeComment (Text.trim line) <+: text ++ padding := by
    rw [whole, ← List.append_assoc]
    -- The first two slashes may begin in the text already, as in a text that ends with a slash.
    rcases commented with rfl | ⟨words, rfl⟩
    · rw [List.append_nil]
      exact beforeComment_isPrefix _
    · exact beforeComment_comment_isPrefix _ _
  rw [stripStatement_eq_dropEnd]
  rcases List.prefix_or_prefix_of_prefix cut (List.prefix_append text padding) with
    inside | ⟨behind, longer⟩
  · exact (Text.dropEnd_isPrefix _ _).trans inside
  · have within : behind <+: padding := by
      rwa [← longer, List.prefix_append_right_inj] at cut
    rw [← longer, Text.dropEnd_append_of_all fun char member => padded char (within.subset member)]
    exact Text.dropEnd_isPrefix _ _

/-! ## What a stripped text says -/

/-- The statement that is recognized in a stripped text, if there is one. -/
def recognized? (text : Text) : Except Breakdown (Option Statement) :=
  match Pattern.declaration? text with
  | some statement => .ok (some statement)
  | none =>
    match Pattern.loop? text with
    | .error breakdown => .error breakdown
    | .ok (some statement) => .ok (some statement)
    | .ok none => .ok (Pattern.conditional? text <|> Pattern.assignment? text)

/-- A line of which something is left says what is recognized in it. -/
theorem classify_eq {line : Text} (spoken : stripStatement line ≠ []) :
    classify line = (recognized? (stripStatement line)).map
      (·.getD (.unrecognized (Text.trim line))) := by
  rw [← stripStatement_trim] at spoken ⊢
  unfold classify recognized?
  generalize Text.trim line = raw at spoken ⊢
  dsimp only
  split
  · exact absurd rfl spoken
  next comment =>
    have inert : IsInert ('/' :: '/' :: comment) := ⟨[], _, rfl, by simp, .inr ⟨comment, rfl⟩⟩
    exact absurd inert.stripStatement spoken
  · rw [if_neg (by simpa using spoken)]
    cases Pattern.declaration? (stripStatement raw) with
    | some statement => rfl
    | none => rcases Pattern.loop? (stripStatement raw) with cause | statement | statement <;> rfl

/-- A line and what is left of it say the same, but for the text that is kept of an unrecognized
line. -/
theorem classify_stripStatement {line : Text} (spoken : stripStatement line ≠ []) :
    classify line = classify (stripStatement line) ∨
      (∃ text, classify line = .ok (.unrecognized text)) ∧
        ∃ text, classify (stripStatement line) = .ok (.unrecognized text) := by
  have same : stripStatement (stripStatement line) = stripStatement line :=
    (isStripped_stripStatement line).stripStatement
  have spokenToo : stripStatement (stripStatement line) ≠ [] := by rwa [same]
  rw [classify_eq spoken, classify_eq spokenToo, same]
  rcases recognized? (stripStatement line) with cause | _ | statement
  · exact .inl rfl
  · exact .inr ⟨⟨_, rfl⟩, _, rfl⟩
  · exact .inl rfl

theorem not_unrecognized_of_strip_nil {line : Text} (nothing : stripStatement line = []) :
    ¬∃ text, classify line = .ok (.unrecognized text) := by
  rintro ⟨text, unrecognized⟩
  obtain ⟨statement, said, silent⟩ := classify_of_strip_nil nothing
  cases unrecognized.symm.trans said
  cases silent

/-- Stripping is a normal form.  What is left of a line is a stripped text, behind which the line
holds nothing but padding and possibly a comment, and as much of that is stripped as can be.  It is
left as it is when it is stripped again, and it says what the line says, but for the text that is
kept of an unrecognized line. -/
theorem stripStatement_normalForm (line : Text) :
    IsStripped (stripStatement line) ∧
    (∃ remainder, Text.trim line = stripStatement line ++ remainder ∧ IsInert remainder) ∧
    (∀ text remainder, Text.trim line = text ++ remainder → IsInert remainder →
      stripStatement line <+: text) ∧
    stripStatement (stripStatement line) = stripStatement line ∧
    (stripStatement line ≠ [] → (∀ text, classify line ≠ .ok (.unrecognized text)) →
      classify line = classify (stripStatement line)) ∧
    ((∃ text, classify line = .ok (.unrecognized text)) ↔
      ∃ text, classify (stripStatement line) = .ok (.unrecognized text)) := by
  have stripped := isStripped_stripStatement line
  refine ⟨stripped, exists_remainder line, fun _ _ => stripStatement_isPrefix_of_inert,
    stripped.stripStatement, ?_, ?_⟩
  · intro spoken recognized
    rcases classify_stripStatement spoken with same | ⟨⟨text, unrecognized⟩, _⟩
    · exact same
    · exact absurd unrecognized (recognized text)
  · by_cases spoken : stripStatement line = []
    · have nothing : stripStatement (stripStatement line) = [] := by rw [spoken]; rfl
      exact iff_of_false (not_unrecognized_of_strip_nil spoken)
        (not_unrecognized_of_strip_nil nothing)
    · rcases classify_stripStatement spoken with same | ⟨unrecognized, unrecognizedToo⟩
      · rw [same]
      · exact iff_of_true unrecognized unrecognizedToo

/-- Slashes stand next to semicolons, to the text and to one another: the comment begins with the
first two of them. -/
theorem stripStatement_normalForm_of_slashes :
    let line := "\u3000 a = b/;/ ; ;/// c ;".toList
    stripStatement line = "a = b/;/".toList ∧ stripStatement line ≠ [] ∧
      (∀ text, classify line ≠ .ok (.unrecognized text)) ∧
      classify line = classify (stripStatement line) := by
  have left : stripStatement "\u3000 a = b/;/ ; ;/// c ;".toList = "a = b/;/".toList := by
    decide +kernel
  have said : classify "\u3000 a = b/;/ ; ;/// c ;".toList =
    .ok (.assignment ['a'] "b/;/".toList none) := by cbv
  generalize "\u3000 a = b/;/ ; ;/// c ;".toList = line at left said ⊢
  have spoken : stripStatement line ≠ [] := by simp [left]
  have recognized : ∀ text, classify line ≠ .ok (.unrecognized text) := by simp [said]
  exact ⟨left, spoken, recognized, (stripStatement_normalForm line).2.2.2.2.1 spoken recognized⟩

end StepScript

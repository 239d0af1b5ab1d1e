import StepScript.Proofs.Expression.Composition
import StepScript.Proofs.Statement.Recognition

/-!
# Names as expressions

What a statement calls a name is a word that begins with a letter of ASCII or an underscore.  As an
expression such a word is reserved, or holds a character that no name can hold there, or is looked
up by its normal form.  Only the names for which the last is the case and which are their own normal
form mean the variable that they write.
-/

namespace StepScript

open StepScript.Token StepScript.Lexer StepScript.Parser StepScript.Expr

/-- A spelling that an expression reads as the variable of this name. -/
structure Readable (spelling : Text) : Prop where
  unreserved : spelling ∉ reservedWords
  sound : badCharacter? spelling = none
  normal : Text.normalForm spelling = spelling

theorem readable_iff (spelling : Text) :
    Readable spelling ↔ spelling ∉ reservedWords ∧ badCharacter? spelling = none ∧
      Text.normalForm spelling = spelling :=
  ⟨fun readable => ⟨readable.unreserved, readable.sound, readable.normal⟩,
    fun ⟨unreserved, sound, normal⟩ => ⟨unreserved, sound, normal⟩⟩

instance (spelling : Text) : Decidable (Readable spelling) :=
  decidable_of_iff' _ (readable_iff spelling)

theorem isAlphanum_or_foreign {char : Char} (word : Text.isWord char = true) :
    (char.isAlphanum = true ∨ char = '_') ∨ 128 ≤ char.toNat := by
  unfold Text.isWord at word
  split at word
  · exact .inl (by simpa using word)
  · exact .inr (by omega)

theorem continuesName_of_isWord {char : Char} (word : Text.isWord char = true) :
    continuesName char = true := by
  rcases isAlphanum_or_foreign word with (letter | rfl) | foreign
  · simp [continuesName, letter]
  · decide
  · simp [continuesName, foreign]

theorem ne_of_isWord {char mark : Char} (word : Text.isWord char = true)
    (other : Text.isWord mark = false) : char ≠ mark := by
  rintro rfl
  simp [word] at other

theorem Text.dropEnd_of_kept {drops : Char → Bool} {text : Text}
    (kept : ∀ char ∈ text, drops char = false) : Text.dropEnd drops text = text := by
  rcases List.eq_nil_or_concat' text with rfl | ⟨front, char, rfl⟩
  · rfl
  · exact Text.dropEnd_concat (kept char (by simp)) front

namespace Form.Name

variable (name : Form.Name)

theorem isWord_first : Text.isWord name.first = true :=
  name.isWord_of_mem List.mem_cons_self

theorem plain_first :
    name.first ∉ separators ∧ closer? name.first = none ∧ isCloser name.first = false := by
  apply plain_of_isWord
  exact name.opens.imp_left fun letter => by simp [Char.isAlphanum, letter]

def expression : Form.Expression where
  text := name.text
  spoken := List.cons_ne_nil _ _
  trimmed := by
    have solid : ∀ char ∈ name.text, Text.isBlank char = false :=
      fun _ member => Text.isBlank_of_isWord (name.isWord_of_mem member)
    have front : Text.trimStart name.text = name.text :=
      List.dropWhile_cons_of_neg (by simp [Text.isBlank_of_isWord name.isWord_first])
    rw [Text.trim, front]
    exact Text.dropEnd_of_kept solid
  oneLine member := ne_of_isWord (name.isWord_of_mem member) (by decide) rfl
  uncommented inside := ne_of_isWord (name.isWord_of_mem (inside.subset List.mem_cons_self))
    (by decide) rfl
  unended last := ne_of_isWord (name.isWord_of_mem (List.mem_of_getLast? last)) (by decide) rfl

theorem stripStatement_text : stripStatement name.text = name.text :=
  Form.stripStatement_eq (Text.trimStart_of_trim name.expression.trimmed) name.uncommented
    (name.expression.dropEnd_append [])

/-- A name is read as a word, whatever the characters are that it holds. -/
theorem lexeme_text : lexeme name.first name.text = nameLexeme name.text := by
  have unquoted : quotation? name.text = none := by
    apply quotation?_eq_none
    intro char head
    have inside := (List.dropWhile_sublist _).subset (List.mem_of_mem_head? head)
    have word := name.isWord_of_mem inside
    exact ⟨ne_of_isWord word (by decide), ne_of_isWord word (by decide)⟩
  have opens : opensName name.first = true := by
    rcases name.opens with letter | same
    · simp [opensName, letter]
    · simp [opensName, same]
  simp [lexeme, unquoted, opens]

theorem takeWhile_text : name.text.takeWhile continuesName = name.text :=
  List.takeWhile_eq_self_iff.mpr fun _ member =>
    continuesName_of_isWord (name.isWord_of_mem member)

theorem nul_notMem : '\x00' ∉ name.text := fun member =>
  ne_of_isWord (name.isWord_of_mem member) (by decide) rfl

variable {name}

/-- A name whose characters are sound is the variable that its normal form names. -/
theorem evaluateText_eq_lookUp (unreserved : name.text ∉ reservedWords)
    (sound : badCharacter? name.text = none) (environment : Environment) :
    evaluateText name.text environment =
      Tree.lookUp environment (Text.normalForm name.text) := by
  have found : lexeme name.first name.text = .token (.name name.text) name.text.length := by
    simp [lexeme_text, nameLexeme, takeWhile_text, unreserved, sound]
  have spells : Spells .atom 0 name.text (.name default (Text.normalForm name.text)) :=
    ⟨[.name name.text], scans_of_lexeme name.plain_first.1 name.plain_first.2.1
      name.plain_first.2.2 found rfl, .name default name.text, le_rfl⟩
  have whole : Spells .expression 0 name.text (.name default (Text.normalForm name.text)) :=
    spells.mono (by decide) le_rfl
  rcases whole.exists_parseExpression (by decide) (by simpa [text] using name.plain_first.1)
    name.nul_notMem
    (by simp [Tree.depth, constructionLimit]) with
    ⟨tree, read, same⟩
  have allowed := Spells.checkTree_eq_ok (.name default name.text) same name.text
  have spoken : name.text.isEmpty = false := rfl
  simp only [evaluateText, name.stripStatement_text, spoken, read, Bool.false_eq_true, if_false]
  change (checkTree name.text tree >>= fun _ => _) = _
  rw [allowed]
  cases tree <;> cases same
  rfl

theorem evaluateText_of_badCharacter {offset : Nat} (unreserved : name.text ∉ reservedWords)
    (bad : badCharacter? name.text = some offset) (environment : Environment) :
    evaluateText name.text environment = .error (unreadable name.text) := by
  have found : lexeme name.first name.text = .invalid offset := by
    simp [lexeme_text, nameLexeme, takeWhile_text, unreserved, bad]
  have invalid : (scan name.text).invalid.isSome := by
    rw [Option.isSome_iff_ne_none]
    intro valid
    rcases exists_token name.plain_first.1 valid with ⟨kind, count, closers, token, -⟩
    cases found.symm.trans token
  have refused : parseExpression name.text = .error (unreadable name.text) := by
    simp [parseExpression, name.nul_notMem, invalid]
  have spoken : name.text.isEmpty = false := rfl
  simp only [evaluateText, name.stripStatement_text, spoken, refused, Bool.false_eq_true, if_false]
  rfl

end Form.Name

/-- A reserved word has no value, whatever variable is called so. -/
theorem evaluateText_of_reserved {word : Text} (reserved : word ∈ reservedWords)
    (environment : Environment) : ∃ cause, evaluateText word environment = .error cause := by
  have stripped : ∀ word ∈ reservedWords, stripStatement word = word ∧ word.isEmpty = false := by
    decide +kernel
  -- The three constants are read as literals, and no other word is read at all.
  have refused : ∀ word ∈ reservedWords, (match parseExpression word with
      | .error _ | .ok (.literal _) => true
      | .ok _ => false) = true := by decide +kernel
  specialize refused word reserved
  rw [evaluateText, (stripped word reserved).1]
  simp only [(stripped word reserved).2, Bool.false_eq_true, if_false]
  split at refused
  · rename_i cause read
    rw [read]
    exact ⟨cause, rfl⟩
  · rename_i span read
    rw [read]
    exact ⟨_, rfl⟩
  · cases refused

end StepScript

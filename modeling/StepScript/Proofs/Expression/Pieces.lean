import StepScript.Proofs.Expression.Grammar
import StepScript.Proofs.Padding.Line

/-!
# The pieces of an expression

A property of texts that single pieces have and that is kept when texts are joined holds of every
expression.  So no expression holds a comment or a character that ends a text, and a statement that
is nothing but an expression loses nothing when it is stripped.
-/

namespace StepScript.Expr

open Text (isBlank)
open stripStatement (beforeComment)

/-- The marks that may stand next to anything. -/
def brackets : List Text :=
  [['('], [')'], ['['], [']']]

/-- The symbols that stand between blanks. -/
def operators : List Text :=
  [['+'], ['-'], ['*'], ['/'], ['%'], ['<'], ['<', '='], ['>'], ['>', '='], ['=', '='], ['!', '=']]

theorem Operation.symbol_mem (operation : Operation) : operation.symbol ∈ operators := by
  cases operation <;> decide

theorem symbol_mem (comparator : Comparator) : comparator.symbol ∈ operators := by
  cases comparator <;> decide

namespace Piece

/-- Whether a piece can stand without blanks around it. -/
def Plain : Piece → Prop
  | .numeral _ | .name _ => True
  | .mark symbol => symbol ∈ brackets ∨ symbol ∈ [['+'], ['-'], [','], ['.']]
  | .blank => False

/-- Whether an expression can begin with a piece. -/
def Opens : Piece → Prop
  | .numeral _ | .name _ => True
  | .mark symbol => symbol ∈ [['('], ['['], ['+'], ['-']]
  | .blank => False

/-- Whether an expression can end with a piece. -/
def Closes : Piece → Prop
  | .numeral _ | .name _ => True
  | .mark symbol => symbol ∈ [[')'], [']']]
  | .blank => False

theorem Opens.plain {piece : Piece} (opens : piece.Opens) : piece.Plain := by
  cases piece with
  | numeral constant => trivial
  | name identifier => trivial
  | mark symbol =>
    have known : ∀ symbol ∈ [['('], ['['], ['+'], ['-']],
        symbol ∈ brackets ∨ symbol ∈ [['+'], ['-'], [','], ['.']] := by decide
    exact known symbol opens
  | blank => exact opens

theorem Closes.plain {piece : Piece} (closes : piece.Closes) : piece.Plain := by
  cases piece with
  | numeral constant => trivial
  | name identifier => trivial
  | mark symbol =>
    have known : ∀ symbol ∈ [[')'], [']']], symbol ∈ brackets := by decide
    exact .inl (known symbol closes)
  | blank => exact closes

end Piece

/-- A property of pieces in a row holds of an expression if it holds of single pieces and of spaced
symbols, and if it is kept when rows are joined. -/
theorem pieces_closed {motive : List Piece → Prop} (empty : motive []) (blank : motive [.blank])
    (join : ∀ {front back}, motive front → motive back → motive (front ++ back))
    (single : ∀ piece : Piece, piece.Plain → motive [piece])
    (between : ∀ symbol ∈ operators, motive (spaced symbol)) (expression : Expr) :
    motive expression.pieces := by
  have bracketed {first last : Text} {inner : List Piece} (opens : first ∈ brackets)
      (closes : last ∈ brackets) (holds : motive inner) :
      motive (.mark first :: inner ++ [.mark last]) :=
    join (join (single (.mark first) (.inl opens)) holds) (single (.mark last) (.inl closes))
  have enclosed (least : Nat) (operand : Expr) (holds : motive operand.pieces) :
      motive (grouped least operand operand.pieces) := by
    unfold grouped
    split
    · exact bracketed (by decide) (by decide) holds
    · exact holds
  induction expression with
  | numeral constant => exact single _ trivial
  | name identifier => exact single _ trivial
  | list items ih =>
    have more (others : List Expr) (hold : ∀ item ∈ others, motive item.pieces) :
        motive (morePieces others) := by
      induction others with
      | nil => exact empty
      | cons item others ihOthers =>
        have separator : motive [.mark [','], .blank] :=
          join (single (.mark [',']) (.inr (by decide))) blank
        have rest := ihOthers fun each member => hold each (List.mem_cons_of_mem _ member)
        exact join (join separator (hold item List.mem_cons_self)) rest
    cases items with
    | nil => exact bracketed (by decide) (by decide) empty
    | cons first others =>
      have rest := more others fun each member => ih each (List.mem_cons_of_mem _ member)
      exact bracketed (by decide) (by decide) (join (ih first List.mem_cons_self) rest)
  | unary sign operand ih =>
    exact join (single (.mark sign.symbol) (.inr (by cases sign <;> decide)))
      (enclosed 3 operand ih)
  | binary operation left right ihLeft ihRight =>
    exact join (join (enclosed _ left ihLeft) (between _ operation.symbol_mem))
      (enclosed _ right ihRight)
  | comparison comparator left right ihLeft ihRight =>
    exact join (join (enclosed _ left ihLeft) (between _ (symbol_mem comparator)))
      (enclosed _ right ihRight)
  | subscript target index ihTarget ihIndex =>
    simp only [pieces, List.append_assoc]
    exact join (enclosed 5 target ihTarget) (bracketed (by decide) (by decide) ihIndex)
  | length target ih =>
    exact join (enclosed 5 target ih)
      (join (single (.mark ['.']) (.inr (by decide))) (single (.name .length) trivial))

/-- The first piece of an expression is not one that only goes on with it. -/
theorem pieces_head (expression : Expr) :
    ∃ piece rest, expression.pieces = piece :: rest ∧ piece.Opens := by
  have enclosed {least : Nat} {operand : Expr} {behind : List Piece}
      (opens : ∃ piece rest, operand.pieces = piece :: rest ∧ piece.Opens) :
      ∃ piece rest, grouped least operand operand.pieces ++ behind = piece :: rest ∧
        piece.Opens := by
    unfold grouped
    split
    · exact ⟨_, _, rfl, by simp [Piece.Opens]⟩
    · rcases opens with ⟨piece, rest, same, opens⟩
      exact ⟨piece, rest ++ behind, by rw [same, List.cons_append], opens⟩
  induction expression with
  | numeral constant => exact ⟨_, [], rfl, trivial⟩
  | name identifier => exact ⟨_, [], rfl, trivial⟩
  | list items ih => cases items <;> exact ⟨_, _, rfl, by simp [Piece.Opens]⟩
  | unary sign operand ih => exact ⟨_, _, rfl, by cases sign <;> simp [Piece.Opens, Sign.symbol]⟩
  | binary operation left right ihLeft ihRight =>
    simp only [pieces, List.append_assoc]
    exact enclosed ihLeft
  | comparison comparator left right ihLeft ihRight =>
    simp only [pieces, List.append_assoc]
    exact enclosed ihLeft
  | subscript target index ihTarget ihIndex =>
    simp only [pieces, List.append_assoc]
    exact enclosed ihTarget
  | length target ih => exact enclosed ih

theorem pieces_last (expression : Expr) :
    ∃ front piece, expression.pieces = front ++ [piece] ∧ piece.Closes := by
  have enclosed {least : Nat} {operand : Expr} (front : List Piece)
      (closes : ∃ front piece, operand.pieces = front ++ [piece] ∧ piece.Closes) :
      ∃ inner piece, front ++ grouped least operand operand.pieces = inner ++ [piece] ∧
        piece.Closes := by
    unfold grouped
    split
    · exact ⟨front ++ .mark ['('] :: operand.pieces, .mark [')'], by simp, by simp [Piece.Closes]⟩
    · rcases closes with ⟨inner, piece, same, closes⟩
      exact ⟨front ++ inner, piece, by rw [same, List.append_assoc], closes⟩
  induction expression with
  | numeral constant => exact ⟨[], _, rfl, trivial⟩
  | name identifier => exact ⟨[], _, rfl, trivial⟩
  | list items ih =>
    cases items with
    | nil => exact ⟨[.mark ['[']], _, rfl, by simp [Piece.Closes]⟩
    | cons first others => exact ⟨_, _, rfl, by simp [Piece.Closes]⟩
  | unary sign operand ih => exact enclosed [.mark sign.symbol] ih
  | binary operation left right ihLeft ihRight => exact enclosed _ ihRight
  | comparison comparator left right ihLeft ihRight => exact enclosed _ ihRight
  | subscript target index ihTarget ihIndex => exact ⟨_, _, rfl, by simp [Piece.Closes]⟩
  | length target ih =>
    exact ⟨grouped 5 target target.pieces ++ [.mark ['.']],
      .name .length, by simp [pieces], trivial⟩

/-! ## Characters -/

theorem Constant.isDigit_of_mem_digits {constant : Constant} {char : Char}
    (member : char ∈ constant.digits) : char.isDigit = true :=
  Nat.isDigit_of_mem_toDigits (by decide) (by decide) member

theorem Constant.isDigit_of_mem_places {constant : Constant} {char : Char}
    (member : char ∈ constant.places) : char.isDigit = true := by
  have each : ∀ digit : Fin 10, (Nat.digitChar digit.val).isDigit = true := by decide
  rcases List.mem_map.mp member with ⟨digit, _, rfl⟩
  exact each digit

theorem Constant.digits_ne_nil (constant : Constant) : constant.digits ≠ [] :=
  Nat.toDigits_ne_nil

/-- Whether a character can stand in a piece that stands without blanks. -/
def isSolid (char : Char) : Bool :=
  char.isAlphanum || ['_', '.', '(', ')', '[', ']', ',', '+', '-'].contains char

theorem isAlphanum_of_isDigit {char : Char} (digit : char.isDigit = true) :
    char.isAlphanum = true := by
  simp [Char.isAlphanum, digit]

theorem isSolid_of_isDigit {char : Char} (digit : char.isDigit = true) : isSolid char = true := by
  simp [isSolid, isAlphanum_of_isDigit digit]

theorem toNat_of_isAlphanum {char : Char} (alphanum : char.isAlphanum = true) :
    48 ≤ char.toNat ∧ char.toNat ≤ 122 := by
  simp only [Char.isAlphanum, Char.isAlpha, Char.isUpper, Char.isLower, Char.isDigit,
    Bool.or_eq_true, Bool.and_eq_true, decide_eq_true_eq, ge_iff_le,
    UInt32.le_iff_toNat_le] at alphanum
  simp at alphanum
  omega

theorem isBlank_of_isSolid {char : Char} (solid : isSolid char = true) : isBlank char = false := by
  rcases Bool.or_eq_true_iff.mp solid with alphanum | mark
  · have range := toNat_of_isAlphanum alphanum
    simp [isBlank]
    omega
  · have known : ∀ mark ∈ ['_', '.', '(', ')', '[', ']', ',', '+', '-'], isBlank mark = false := by
      simp [isBlank]
    exact known char (List.contains_iff_mem.mp mark)

theorem isPadding_of_isSolid {char : Char} (solid : isSolid char = true) :
    Text.isPadding char = false := by
  have other : char ≠ ';' := by
    rintro rfl
    exact absurd solid (by decide)
  simp [Text.isPadding, other, isBlank_of_isSolid solid]

theorem Constant.isDigit_or_point {constant : Constant} {char : Char}
    (member : char ∈ constant.text) : char.isDigit = true ∨ char = '.' := by
  unfold Constant.text at member
  split at member
  · exact .inl (isDigit_of_mem_digits member)
  · rcases List.mem_append.mp member with whole | behind
    · exact .inl (isDigit_of_mem_digits whole)
    · exact (List.mem_cons.mp behind).symm.imp isDigit_of_mem_places id

theorem Constant.isSolid_of_mem {constant : Constant} {char : Char}
    (member : char ∈ constant.text) : isSolid char = true := by
  rcases isDigit_or_point member with digit | rfl
  · exact isSolid_of_isDigit digit
  · decide

theorem Identifier.first_mem (identifier : Identifier) : identifier.first ∈ identifier.text :=
  List.mem_cons_self

theorem Identifier.isWord_of_mem {identifier : Identifier} {char : Char}
    (member : char ∈ identifier.text) : char.isAlphanum = true ∨ char = '_' := by
  rcases List.mem_cons.mp member with rfl | behind
  · exact identifier.opens.imp (fun letter => by simp [Char.isAlphanum, letter]) id
  · exact identifier.continues char behind

theorem Identifier.toNat_lt_of_mem {identifier : Identifier} {char : Char}
    (member : char ∈ identifier.text) : char.toNat < 128 := by
  rcases isWord_of_mem member with letter | rfl
  · have range := toNat_of_isAlphanum letter
    omega
  · decide

theorem Identifier.isSolid_of_mem {identifier : Identifier} {char : Char}
    (member : char ∈ identifier.text) : isSolid char = true := by
  rcases isWord_of_mem member with letter | rfl
  · simp [isSolid, letter]
  · decide

namespace Piece.Plain

theorem isSolid_of_mem {piece : Piece} (plain : piece.Plain) {char : Char}
    (member : char ∈ piece.text) : isSolid char = true := by
  cases piece with
  | numeral constant => exact Constant.isSolid_of_mem member
  | name identifier => exact Identifier.isSolid_of_mem member
  | mark symbol =>
    have known : ∀ symbol ∈ brackets ++ [['+'], ['-'], [','], ['.']],
        symbol.all isSolid = true := by decide
    exact List.all_eq_true.mp (known symbol (List.mem_append.mpr plain)) char member
  | blank => exact plain.elim

theorem text_ne_nil {piece : Piece} (plain : piece.Plain) : piece.text ≠ [] := by
  cases piece with
  | numeral constant =>
    simp only [Piece.text, Constant.text]
    split
    · exact constant.digits_ne_nil
    · simp
  | name identifier => exact List.cons_ne_nil _ _
  | mark symbol =>
    have known : ∀ symbol ∈ brackets ++ [['+'], ['-'], [','], ['.']], symbol ≠ [] := by decide
    exact known symbol (List.mem_append.mpr plain)
  | blank => exact plain.elim

end Piece.Plain

/-! ## Stripping -/

theorem beforeComment_append {text : Text} (plain : ∀ char ∈ text, char ≠ '/') (rest : Text) :
    beforeComment (text ++ rest) = text ++ beforeComment rest := by
  induction text with
  | nil => rfl
  | cons char text ih =>
    have first : char ≠ '/' := plain char List.mem_cons_self
    rw [List.cons_append, beforeComment_cons (by simp [first]),
      ih fun other member => plain other (List.mem_cons_of_mem _ member), List.cons_append]

/-- A division is no comment, because it stands between blanks. -/
theorem beforeComment_print (expression : Expr) (rest : Text) :
    beforeComment (expression.print ++ rest) = expression.print ++ beforeComment rest := by
  revert rest
  apply pieces_closed (motive := fun pieces => ∀ rest,
    beforeComment (pieces.flatMap Piece.text ++ rest) =
      pieces.flatMap Piece.text ++ beforeComment rest)
  case empty => exact fun rest => rfl
  case blank => exact fun rest => by simp [Piece.text, beforeComment]
  case join =>
    intro front back ihFront ihBack rest
    rw [List.flatMap_append, List.append_assoc, ihFront, ihBack, List.append_assoc]
  case single =>
    intro piece plain
    rw [List.flatMap_singleton]
    apply beforeComment_append
    rintro char member rfl
    exact absurd (plain.isSolid_of_mem member) (by decide)
  case between =>
    intro symbol member rest
    simp only [operators, List.mem_cons, List.not_mem_nil, or_false] at member
    rcases member with rfl | rfl | rfl | rfl | rfl | rfl | rfl | rfl | rfl | rfl | rfl <;>
      simp [spaced, Piece.text, beforeComment]

theorem ne_nul_of_mem_print {expression : Expr} {char : Char} (member : char ∈ expression.print) :
    char ≠ '\x00' := by
  revert char
  apply pieces_closed (motive := fun pieces => ∀ {char}, char ∈ pieces.flatMap Piece.text →
    char ≠ '\x00')
  case empty => simp
  case blank => simp [Piece.text]
  case join =>
    intro front back ihFront ihBack char member
    rw [List.flatMap_append] at member
    exact (List.mem_append.mp member).elim ihFront ihBack
  case single =>
    intro piece plain char member
    rw [List.flatMap_singleton] at member
    rintro rfl
    exact absurd (plain.isSolid_of_mem member) (by decide)
  case between =>
    have each : ∀ symbol ∈ operators,
        ((spaced symbol).flatMap Piece.text).all (· != '\x00') = true := by decide
    intro symbol known char member
    simpa using List.all_eq_true.mp (each symbol known) char member

theorem print_head (expression : Expr) :
    ∃ char rest, expression.print = char :: rest ∧ isSolid char = true := by
  rcases expression.pieces_head with ⟨piece, others, same, opens⟩
  cases text : piece.text with
  | nil => exact absurd text opens.plain.text_ne_nil
  | cons char rest =>
    refine ⟨char, rest ++ others.flatMap Piece.text, ?_, ?_⟩
    · rw [print, same, List.flatMap_cons, text, List.cons_append]
    · exact opens.plain.isSolid_of_mem (text ▸ List.mem_cons_self)

theorem print_last (expression : Expr) :
    ∃ front char, expression.print = front ++ [char] ∧ isSolid char = true := by
  rcases expression.pieces_last with ⟨others, piece, same, closes⟩
  rcases List.eq_nil_or_concat piece.text with empty | ⟨front, char, text⟩
  · exact absurd empty closes.plain.text_ne_nil
  · refine ⟨others.flatMap Piece.text ++ front, char, ?_, ?_⟩
    · simp [print, same, text]
    · exact closes.plain.isSolid_of_mem (by simp [text])

theorem stripStatement_print (expression : Expr) :
    stripStatement expression.print = expression.print := by
  have front : Text.trimStart expression.print = expression.print := by
    rcases expression.print_head with ⟨char, rest, text, solid⟩
    rw [text, Text.trimStart, List.dropWhile_cons_of_neg (by simp [isBlank_of_isSolid solid])]
  have comment : beforeComment expression.print = expression.print := by
    simpa [beforeComment] using expression.beforeComment_print []
  have back : Text.dropEnd Text.isPadding expression.print = expression.print := by
    rcases expression.print_last with ⟨others, char, text, solid⟩
    rw [text, Text.dropEnd_concat (isPadding_of_isSolid solid)]
  calc stripStatement expression.print
      = Text.dropEnd Text.isPadding (beforeComment (Text.trimStart expression.print)) := rfl
    _ = expression.print := by rw [front, comment, back]

end StepScript.Expr

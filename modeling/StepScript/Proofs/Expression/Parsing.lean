import StepScript.Proofs.Expression.Ladder

/-!
# Reading the tree of an expression

The tokens of an expression are read as a tree with the same operators and operands.  What is proved
of each operator is how one of its tokens leads on; the ladder does the rest.
-/

namespace StepScript

open Lexer StepScript.Parser

namespace Expr

/-- The operator of the tree that a sign stands for. -/
def Sign.operator : Sign → UnaryOperator
  | .plus => .plus
  | .minus => .minus

def Operation.operator : Operation → BinaryOperator
  | .plus => .plus
  | .minus => .minus
  | .times => .times
  | .over => .over
  | .modulo => .modulo

def Operation.level : Operation → Level
  | .plus | .minus => .sum
  | .times | .over | .modulo => .term

end Expr

/-! ## Reading one construct -/

namespace Parser.Parsed

open StepScript.Expr

variable {kinds others : List TokenKind} {cost less : Nat} {good fine : Tree → Prop}

theorem leaf {kind : TokenKind} {tree : Span → Tree} (same : leaf? kind = some tree) :
    Parsed .atom 17 [kind] fun found => ∃ span, found = tree span := by
  have begins : Begins .atom kind := by
    cases kind with
    | integer | double | name => trivial
    | _ => cases same
  have plain : mark ":=" ∉ [kind] := by
    cases kind with
    | integer | double | name => simp [mark]
    | _ => cases same
  refine of_reads id ⟨⟨_, [], rfl, begins⟩, plain⟩ le_rfl ?_
  intro fuel enough tokens last more spelled ends
  rcases List.map_eq_singleton_iff.mp spelled with ⟨token, rfl, rfl⟩
  obtain ⟨fuel, rfl⟩ := exists_fuel le_rfl enough
  exact yields_atom_leaf same fun span => ⟨span, rfl⟩

theorem unary (sign : Sign) (below : Parsed .factor cost kinds good) (costly : 17 ≤ cost) :
    Parsed .factor (cost + 1) (.mark sign.symbol :: kinds) fun tree =>
      ∃ span operand, tree = .unary span sign.operator operand ∧ good operand := by
  have begins : Begins .factor (.mark sign.symbol) := by
    cases sign <;> exact .inr ⟨by decide, le_rfl⟩
  have plain : mark ":=" ∉ TokenKind.mark sign.symbol :: kinds := by
    refine List.not_mem_cons_of_ne_of_not_mem ?_ below.shaped.plain
    cases sign <;> decide
  refine of_reads id ⟨⟨_, _, rfl, begins⟩, plain⟩ (by omega) ?_
  intro fuel enough tokens last more spelled ends
  rcases List.map_eq_cons_iff.mp spelled with ⟨token, others, rfl, same, spelled⟩
  obtain ⟨fuel, rfl⟩ := exists_fuel (by omega) enough
  have signed : signOperator token.kind = some sign.operator := by
    rw [same]
    cases sign <;> rfl
  refine (yields_position _).bind fun start _ => ?_
  refine yields_peek.bind ?_
  rintro kind rfl
  rw [signed]
  refine yields_advance.bind fun _ _ => ?_
  have operand := below.reads .factor le_rfl fuel (by simp only [Level.index] at enough ⊢; omega)
    others last more spelled ends
  refine operand.bind fun tree holds => ?_
  exact (yields_spanFrom _ _).bind fun span _ => .pure ⟨span, tree, rfl, holds⟩

theorem binary (operation : Operation) (before : Parsed operation.level cost kinds good)
    (behind : Parsed operation.level.inner cost others fine) (costly : 17 ≤ cost) :
    Parsed operation.level cost (kinds ++ .mark operation.symbol :: others) fun tree =>
      ∃ span left right, tree = .binary span operation.operator left right ∧ good left ∧
        fine right := by
  have chains : operation.level.Chains := by cases operation <;> trivial
  have next : operation.level.inner.index = operation.level.index + 1 := by cases operation <;> rfl
  have plain : mark ":=" ∉ kinds ++ TokenKind.mark operation.symbol :: others := by
    have symbol : mark ":=" ≠ .mark operation.symbol := by cases operation <;> decide
    simp [before.shaped.plain, behind.shaped.plain, symbol]
  refine of_chained chains (before.shaped.append plain) costly ?_
  intro fuel enough
  have first := before.chained operation.level chains le_rfl fuel (by omega)
  refine first.append ⟨_, _, rfl, ?_⟩ ?_
  · cases operation <;> decide
  · intro start value holds tokens last more spelled ends
    rcases List.map_eq_cons_iff.mp spelled with ⟨token, others, rfl, same, spelled⟩
    have second := behind.reads operation.level.inner le_rfl fuel (by omega) others last more
      spelled ends
    have linked : Yields (link (parse fuel) operation.level start value)
        (token :: others ++ last :: more) (last :: more) fun found => ∃ span right,
          found = some (.binary span operation.operator value right) ∧ fine right := by
      cases operation <;> exact yields_leftLink (by rw [same]; rfl) second start value
    refine linked.mono ?_
    rintro _ ⟨span, right, rfl, finer⟩
    exact ⟨_, rfl, span, value, right, rfl, holds, finer⟩

theorem comparison (comparator : Comparator) (before : Parsed .bitOr cost kinds good)
    (behind : Parsed .bitOr cost others fine) (costly : 17 ≤ cost) :
    Parsed .comparison cost (kinds ++ .mark comparator.symbol :: others) fun tree =>
      ∃ span left right, tree = .comparison span left [some comparator] [right] ∧ good left ∧
        fine right := by
  have plain : mark ":=" ∉ kinds ++ TokenKind.mark comparator.symbol :: others := by
    have symbol : mark ":=" ≠ .mark comparator.symbol := by cases comparator <;> decide
    simp [before.shaped.plain, behind.shaped.plain, symbol]
  have shaped := (before.shaped.append plain).mono (Nat.le_succ Level.comparison.index)
  refine of_reads id shaped costly ?_
  intro fuel enough tokens last more spelled ends
  rcases List.map_eq_append_iff.mp spelled with ⟨front, back, rfl, spelledFront, spelledBack⟩
  rcases List.map_eq_cons_iff.mp spelledBack with ⟨token, others, rfl, same, spelledOthers⟩
  obtain ⟨fuel, rfl⟩ := exists_fuel costly enough
  have enough' : cost ≤ fuel + Level.bitOr.index := by
    simp only [Level.index] at enough ⊢
    omega
  have compares : Ends .bitOr token.kind := by
    rw [same]
    cases comparator <;> decide
  have first := before.reads .bitOr le_rfl fuel enough' front token (others ++ last :: more)
    spelledFront compares
  have second := behind.reads .bitOr le_rfl fuel enough' others last more spelledOthers
    (ends.mono (Nat.le_succ _))
  simp only [List.append_assoc, List.cons_append]
  exact yields_comparison same ends first second (by simp)

theorem subscript (before : Parsed .primary cost kinds good)
    (inside : Parsed .named less others fine) (costly : 17 ≤ cost) (deeper : less + 16 ≤ cost) :
    Parsed .primary cost (kinds ++ (mark "[" :: others ++ [mark "]"])) fun tree =>
      ∃ span target index, tree = .subscript span target index ∧ good target ∧ fine index := by
  have plain : mark ":=" ∉ kinds ++ (mark "[" :: others ++ [mark "]"]) := by
    simpa [mark] using And.intro before.shaped.plain inside.shaped.plain
  refine of_chained trivial (before.shaped.append plain) costly ?_
  intro fuel enough
  have first := before.chained .primary trivial le_rfl fuel enough
  refine first.append ⟨_, _, rfl, by decide⟩ ?_
  intro start value holds tokens last more spelled ends
  rcases List.map_eq_append_iff.mp spelled with ⟨front, back, rfl, spelledFront, spelledBack⟩
  rcases List.map_eq_cons_iff.mp spelledFront with ⟨opening, within, rfl, opens, spelledInside⟩
  rcases List.map_eq_singleton_iff.mp spelledBack with ⟨closing, rfl, closes⟩
  rcases inside.shaped.begins with ⟨kind, rest, whole, begins⟩
  rcases List.map_eq_cons_iff.mp (spelledInside.trans whole) with ⟨token, later, rfl, rfl, _⟩
  have inner := inside.reads .named le_rfl fuel
    (by simp only [Level.index] at enough ⊢; omega) _ closing (last :: more) spelledInside
    (closes ▸ by decide)
  have linked := yields_subscript opens begins closes inner start value
  simp only [List.append_assoc, List.cons_append, List.nil_append] at linked ⊢
  refine linked.mono ?_
  rintro _ ⟨span, index, rfl, finer⟩
  exact ⟨_, rfl, span, value, index, rfl, holds, finer⟩

theorem property (spelling : Text) (before : Parsed .primary cost kinds good) (costly : 17 ≤ cost) :
    Parsed .primary cost (kinds ++ [mark ".", .name spelling]) fun tree =>
      ∃ span target, tree = .attribute span target (Text.normalForm spelling) ∧ good target := by
  have plain : mark ":=" ∉ kinds ++ [mark ".", .name spelling] := by
    simpa [mark] using before.shaped.plain
  refine of_chained trivial (before.shaped.append plain) costly ?_
  intro fuel enough
  have first := before.chained .primary trivial le_rfl fuel enough
  refine first.append ⟨_, _, rfl, by decide⟩ ?_
  intro start value holds tokens last more spelled ends
  rcases List.map_eq_cons_iff.mp spelled with ⟨point, others, rfl, points, spelledOthers⟩
  rcases List.map_eq_singleton_iff.mp spelledOthers with ⟨property, rfl, named⟩
  refine (yields_property points named start value).mono ?_
  rintro _ ⟨span, rfl⟩
  exact ⟨_, rfl, span, value, rfl, holds⟩

theorem emptyList :
    Parsed .atom 17 [mark "[", mark "]"] fun tree => ∃ span, tree = .list span [] := by
  refine of_reads id ⟨⟨_, _, rfl, .inl (by decide)⟩, by decide⟩ le_rfl ?_
  intro fuel enough tokens last more spelled ends
  rcases List.map_eq_cons_iff.mp spelled with ⟨opening, others, rfl, opens, spelledOthers⟩
  rcases List.map_eq_singleton_iff.mp spelledOthers with ⟨closing, rfl, closes⟩
  obtain ⟨fuel, rfl⟩ := exists_fuel le_rfl enough
  exact yields_atom_list opens (yields_emptyList opens closes)

section Items

variable {ι : Type} {spell : ι → List TokenKind} {means : ι → Tree → Prop}

theorem next_of_items (behind : List Token) {tokens : List Token} {last : Token} {others : List ι}
    (ends : Ends .named last.kind)
    (spelled : tokens.map Token.kind = others.flatMap fun item => mark "," :: spell item) :
    ∃ next rest, tokens ++ last :: behind = next :: rest ∧ Ends .named next.kind := by
  cases others with
  | nil =>
    rw [List.map_eq_nil_iff.mp spelled]
    exact ⟨last, behind, rfl, ends⟩
  | cons item others =>
    rcases List.map_eq_cons_iff.mp spelled with ⟨comma, rest, rfl, separates, _⟩
    exact ⟨comma, rest ++ last :: behind, rfl, separates ▸ by decide⟩

theorem rounds_items {fuel : Nat} {last : Token} (behind : List Token)
    (ends : Ends .named last.kind) (others : List ι)
    (each : ∀ item ∈ others, Parsed .named fuel (spell item) (means item)) (tokens : List Token)
    (spelled : tokens.map Token.kind = others.flatMap fun item => mark "," :: spell item)
    (items : List ι) (trees : List Tree) (written : List.Forall₂ means items trees.reverse) :
    Rounds (itemLink (parse fuel)) trees (tokens ++ last :: behind) (last :: behind)
      fun found => List.Forall₂ means (items ++ others) found.reverse := by
  induction others generalizing tokens items trees with
  | nil =>
    rw [List.map_eq_nil_iff.mp spelled, List.append_nil]
    exact .refl written
  | cons item others ih =>
    have parsed := each item List.mem_cons_self
    rcases List.map_eq_cons_iff.mp (spelled.trans List.flatMap_cons) with
      ⟨comma, later, rfl, separates, spelledLater⟩
    rcases List.map_eq_append_iff.mp spelledLater with
      ⟨front, back, rfl, spelledFront, spelledBack⟩
    rcases parsed.shaped.begins with ⟨kind, rest, whole, begins⟩
    rcases List.map_eq_cons_iff.mp (spelledFront.trans whole) with ⟨first, inside, rfl, rfl, _⟩
    rcases next_of_items behind ends spelledBack with ⟨next, rest, text, follows⟩
    have inner := parsed.reads .named le_rfl fuel le_rfl
      (first :: inside) next rest spelledFront follows
    rw [← text] at inner
    have here : Yields (itemLink (parse fuel) trees)
        (comma :: first :: (inside ++ (back ++ last :: behind)))
        (back ++ last :: behind) fun found =>
          ∃ result, found = some result ∧ List.Forall₂ means (items ++ [item]) result.reverse := by
      refine (yields_item separates begins inner trees).mono ?_
      rintro _ ⟨tree, rfl, holds⟩
      refine ⟨_, rfl, ?_⟩
      rw [List.reverse_cons]
      exact List.rel_append written (.cons holds .nil)
    have rounds := Rounds.head here (by simp only [List.length_append, List.length_cons]; omega)
      fun found holds => ih (fun other member => each other (List.mem_cons_of_mem _ member)) back
        spelledBack _ found holds
    simpa using rounds

/-- A comma may stand behind the last item of a list. -/
theorem yields_items {fuel : Nat} {closing : Token} (more : List Token)
    {tokens commas : List Token} (closes : closing.kind = mark "]") {trailing : Bool}
    (comma : commas.map Token.kind = if trailing then [mark ","] else []) {others : List ι}
    (each : ∀ item ∈ others, Parsed .named fuel (spell item) (means item))
    (spelled : tokens.map Token.kind = others.flatMap fun item => mark "," :: spell item)
    {first : ι} {tree : Tree} (written : means first tree) :
    Yields (moreItems (starredItem (parse fuel)) Parser.closes tree)
      (tokens ++ (commas ++ closing :: more)) (closing :: more)
      (List.Forall₂ means (first :: others)) := by
  rw [moreItems_eq]
  cases trailing with
  | false =>
    rw [List.map_eq_nil_iff.mp comma]
    have ends : Ends .named closing.kind := closes ▸ by decide
    have rounds := rounds_items more ends others each tokens spelled [first] [tree]
      (.cons written .nil)
    refine (rounds.yields fun trees => ?_).bind fun found holds => .pure holds
    exact yields_missed (by simp [closes, mark]) (.pure rfl)
  | true =>
    rcases List.map_eq_singleton_iff.mp comma with ⟨last, rfl, separates⟩
    have ends : Ends .named last.kind := separates ▸ by decide
    have rounds := rounds_items (closing :: more) ends others each tokens spelled [first]
      [tree] (.cons written .nil)
    refine (rounds.yields_last (fun trees => ?_) (by simp)).bind fun found holds => .pure holds
    refine yields_taken separates ?_
    refine yields_peek.bind ?_
    rintro kind rfl
    rw [closes]
    exact .pure rfl

/-- Brackets around items are read as a list of what the items are read as. -/
theorem list {item : ι} {others : List ι}
    (each : ∀ other ∈ item :: others, Parsed .named cost (spell other) (means other))
    (costly : 17 ≤ cost) (trailing : Bool) :
    Parsed .atom (cost + 17)
      (mark "[" :: (spell item ++ (others.flatMap (fun other => mark "," :: spell other) ++
        if trailing then [mark ","] else [])) ++ [mark "]"])
      fun tree => ∃ span trees, tree = .list span trees ∧
        List.Forall₂ means (item :: others) trees := by
  have plain : mark ":=" ∉ mark "[" :: (spell item ++
      (others.flatMap (fun other => mark "," :: spell other) ++
        if trailing then [mark ","] else [])) ++ [mark "]"] := by
    have inner (other : ι) (member : other ∈ item :: others) := (each other member).shaped.plain
    have first := inner item List.mem_cons_self
    have comma : mark ":=" ∉ if trailing then [mark ","] else [] := by cases trailing <;> decide
    have more : mark ":=" ∉ others.flatMap fun other => mark "," :: spell other := by
      intro member
      rcases List.mem_flatMap.mp member with ⟨other, among, inside⟩
      rcases List.mem_cons.mp inside with same | inside
      · exact absurd same (by decide)
      · exact inner other (List.mem_cons_of_mem _ among) inside
    have opening : mark ":=" ≠ mark "[" := by decide
    have closing : mark ":=" ≠ mark "]" := by decide
    simp [first, comma, more, opening, closing]
  refine of_reads id ⟨⟨_, _, rfl, .inl (by decide)⟩, plain⟩ (by omega) ?_
  intro fuel enough tokens last more spelled ends
  rcases List.map_eq_append_iff.mp spelled with ⟨front, back, rfl, spelledFront, spelledBack⟩
  rcases List.map_eq_cons_iff.mp spelledFront with ⟨opening, inside, rfl, opens, spelledInside⟩
  rcases List.map_eq_singleton_iff.mp spelledBack with ⟨closing, rfl, closes⟩
  rcases List.map_eq_append_iff.mp spelledInside with
    ⟨inner, behind, rfl, spelledInner, spelledBehind⟩
  rcases List.map_eq_append_iff.mp spelledBehind with
    ⟨later, commas, rfl, spelledLater, comma⟩
  obtain ⟨fuel, rfl⟩ := exists_fuel (by omega) enough
  have parsed (other : ι) (member : other ∈ item :: others) :
      Parsed .named fuel (spell other) (means other) :=
    (each other member).mono le_rfl (by simp only [Level.index] at enough; omega)
  rcases (parsed item List.mem_cons_self).shaped.begins with ⟨kind, rest, whole, begins⟩
  rcases List.map_eq_cons_iff.mp (spelledInner.trans whole) with ⟨first, inside, rfl, rfl, _⟩
  have items (tree : Tree) (written : means item tree) :=
    yields_items (last :: more) closes comma
      (fun other member => parsed other (List.mem_cons_of_mem _ member)) spelledLater written
  obtain ⟨next, rest, text, follows⟩ : ∃ next rest,
      later ++ (commas ++ closing :: last :: more) = next :: rest ∧ Ends .named next.kind := by
    have closed : Ends .named closing.kind := closes ▸ by decide
    cases trailing with
    | false =>
      rw [List.map_eq_nil_iff.mp comma]
      exact next_of_items _ closed spelledLater
    | true =>
      rcases List.map_eq_singleton_iff.mp comma with ⟨last, rfl, separates⟩
      exact next_of_items _ (separates ▸ by decide) spelledLater
  have here : Yields (parse fuel .named) (first :: (inside ++ next :: rest)) (next :: rest)
      (means item) :=
    (parsed item List.mem_cons_self).reads .named le_rfl fuel le_rfl
      (first :: inside) next rest spelledInner follows
  rw [text] at items
  have group := yields_atom_list opens (yields_list opens begins follows closes here items)
  rw [← text] at group
  simp only [List.append_assoc, List.cons_append, List.nil_append] at group ⊢
  exact group

end Items

end Parser.Parsed

namespace Expr

/-! ## Expressions -/

/-- A tree has the operators and operands of an expression, wherever they stand in the source. -/
inductive Writes : Expr → Tree → Prop where
  | integer {constant : Constant} (span : Span) (plain : constant.fraction.isEmpty = true) :
    Writes (.numeral constant) (.integer span constant.whole)
  | double {constant : Constant} (span : Span) (pointed : constant.fraction.isEmpty = false) :
    Writes (.numeral constant) (.double span constant.value)
  | name (span : Span) (identifier : Identifier) :
      Writes (.name identifier) (.name span identifier.text)
  | list {items : List Expr} {trees : List Tree} (span : Span)
      (each : List.Forall₂ Writes items trees) :
    Writes (.list items) (.list span trees)
  | unary {operand : Expr} {tree : Tree} (span : Span) (sign : Sign) (below : Writes operand tree) :
    Writes (.unary sign operand) (.unary span sign.operator tree)
  | binary {left right : Expr} {first second : Tree} (span : Span) (operation : Operation)
    (before : Writes left first) (behind : Writes right second) :
    Writes (.binary operation left right) (.binary span operation.operator first second)
  | comparison {left right : Expr} {first second : Tree} (span : Span) (comparator : Comparator)
    (before : Writes left first) (behind : Writes right second) :
    Writes (.comparison comparator left right) (.comparison span first [some comparator] [second])
  | subscript {target index : Expr} {first second : Tree} (span : Span)
      (before : Writes target first)
    (inside : Writes index second) :
    Writes (.subscript target index) (.subscript span first second)
  | length {target : Expr} {tree : Tree} (span : Span) (before : Writes target tree) :
    Writes (.length target) (.attribute span tree "length".toList)

/-- The level that the outermost operator of an expression belongs to. -/
def top : Expr → Level
  | .comparison _ _ _ => .comparison
  | .binary operation _ _ => operation.level
  | .unary _ _ => .factor
  | .subscript _ _ | .length _ => .primary
  | .numeral _ | .name _ | .list _ => .atom

/-- So many nested calls are enough to read an expression at the loosest level: each operator costs
two ways down the ladder, one for the operator and one for parentheses around an operand. -/
def cost (expression : Expr) : Nat :=
  34 * expression.depth + 17

/-- The tokens of an expression are read as a tree of it. -/
def IsParsed (expression : Expr) : Prop :=
  Parsed expression.top expression.cost (kindsOf expression.pieces) (Writes expression)

/-- The loosest level that an operand belongs to if it is bound at least so tightly. -/
def levelOf : Nat → Level
  | 0 => .comparison
  | 1 => .sum
  | 2 => .term
  | 3 => .factor
  | _ => .primary

theorem index_levelOf_le {expression : Expr} {least : Nat} (bound : least ≤ expression.binding) :
    (levelOf least).index ≤ expression.top.index := by
  have loose : ∀ least ≤ 5, ∀ binding ≤ 5, least ≤ binding →
      (levelOf least).index ≤ (levelOf binding).index := by decide
  have most : expression.binding ≤ 5 := by
    cases expression with
    | binary operation left right => cases operation <;> simp [binding, Operation.binding]
    | _ => simp [binding]
  have own : (levelOf expression.binding).index ≤ expression.top.index := by
    cases expression with
    | binary operation left right => cases operation <;> exact le_rfl
    | numeral constant | name identifier | list items => exact Level.index_le _
    | _ => exact le_rfl
  exact (loose least (bound.trans most) _ most bound).trans own

@[simp]
theorem kindsOf_append (front back : List Piece) :
    kindsOf (front ++ back) = kindsOf front ++ kindsOf back := by
  simp [kindsOf]

@[simp]
theorem kindsOf_nil : kindsOf [] = [] :=
  rfl

@[simp]
theorem kindsOf_mark (symbol : Text) (rest : List Piece) :
    kindsOf (.mark symbol :: rest) = .mark symbol :: kindsOf rest :=
  rfl

@[simp]
theorem kindsOf_blank (rest : List Piece) : kindsOf (.blank :: rest) = kindsOf rest :=
  rfl

theorem kindsOf_bracketed (opening closing : Text) (pieces : List Piece) :
    kindsOf (.mark opening :: pieces ++ [.mark closing]) =
      .mark opening :: kindsOf pieces ++ [.mark closing] := by
  simp [kindsOf, Piece.kind?]

namespace IsParsed

/-- An operand is read where it stands, in parentheses or not. -/
theorem grouped {operand : Expr} (parsed : operand.IsParsed) {least : Nat} {level : Level}
    (fits : level.index ≤ (levelOf least).index) :
    Parsed level (operand.cost + 17) (kindsOf (grouped least operand operand.pieces))
      (Writes operand) := by
  unfold Expr.grouped
  split
  · have inner : Parsed .named operand.cost (kindsOf operand.pieces) (Writes operand) :=
      parsed.mono (Nat.zero_le _) le_rfl
    rw [kindsOf_bracketed]
    exact (inner.parenthesized (Nat.le_add_left _ _)).mono level.index_le le_rfl
  · next bound =>
    exact Parsed.mono parsed (fits.trans (index_levelOf_le (not_lt.mp bound)))
      (Nat.le_add_right _ _)

theorem numeral (constant : Constant) : IsParsed (.numeral constant) := by
  cases fraction : constant.fraction.isEmpty with
  | true =>
    have spelled : kindsOf (Expr.numeral constant).pieces = [.integer constant.whole] := by
      simp [pieces, kindsOf, Piece.kind?, Constant.kind, fraction]
    unfold IsParsed
    rw [spelled]
    refine ((Parsed.leaf rfl).mono le_rfl (Nat.le_add_left _ _)).imp ?_
    rintro _ ⟨span, rfl⟩
    exact .integer span fraction
  | false =>
    have spelled : kindsOf (Expr.numeral constant).pieces = [.double constant.value] := by
      simp [pieces, kindsOf, Piece.kind?, Constant.kind, fraction]
    unfold IsParsed
    rw [spelled]
    refine ((Parsed.leaf rfl).mono le_rfl (Nat.le_add_left _ _)).imp ?_
    rintro _ ⟨span, rfl⟩
    exact .double span fraction

theorem name (identifier : Identifier) : IsParsed (.name identifier) := by
  refine ((Parsed.leaf rfl).mono le_rfl (Nat.le_add_left _ _)).imp ?_
  rintro _ ⟨span, rfl⟩
  rw [Text.normalForm_of_ascii fun _ => Identifier.toNat_lt_of_mem]
  exact .name span identifier

theorem unary {operand : Expr} (sign : Sign) (parsed : operand.IsParsed) :
    IsParsed (.unary sign operand) := by
  have below : Parsed .factor (operand.cost + 17) (kindsOf (Expr.grouped 3 operand operand.pieces))
      (Writes operand) := parsed.grouped (by decide)
  refine ((below.unary sign (Nat.le_add_left _ _)).mono le_rfl ?_).imp ?_
  · simp only [cost, depth]
    omega
  · rintro _ ⟨span, tree, rfl, written⟩
    exact .unary span sign written

theorem binary {left right : Expr} (operation : Operation) (parsedLeft : left.IsParsed)
    (parsedRight : right.IsParsed) : IsParsed (.binary operation left right) := by
  have spelled : kindsOf (Expr.binary operation left right).pieces =
      kindsOf (Expr.grouped operation.binding left left.pieces) ++
        .mark operation.symbol ::
          kindsOf (Expr.grouped (operation.binding + 1) right right.pieces) := by
    simp [pieces, spaced]
  have before : Parsed operation.level (left.cost + 17)
      (kindsOf (Expr.grouped operation.binding left left.pieces)) (Writes left) :=
    parsedLeft.grouped (by cases operation <;> decide)
  have behind : Parsed operation.level.inner (right.cost + 17)
      (kindsOf (Expr.grouped (operation.binding + 1) right right.pieces)) (Writes right) :=
    parsedRight.grouped (by cases operation <;> decide)
  have costs : left.cost + 17 ≤ cost (.binary operation left right) ∧
      right.cost + 17 ≤ cost (.binary operation left right) := by
    simp only [cost, depth]
    omega
  unfold IsParsed
  rw [spelled]
  refine ((before.mono le_rfl costs.1).binary operation (behind.mono le_rfl costs.2)
    (Nat.le_add_left _ _)).imp ?_
  rintro _ ⟨span, first, second, rfl, written, writtenSecond⟩
  exact .binary span operation written writtenSecond

theorem comparison {left right : Expr} (comparator : Comparator) (parsedLeft : left.IsParsed)
    (parsedRight : right.IsParsed) : IsParsed (.comparison comparator left right) := by
  have spelled : kindsOf (Expr.comparison comparator left right).pieces =
      kindsOf (Expr.grouped 1 left left.pieces) ++
        .mark comparator.symbol :: kindsOf (Expr.grouped 1 right right.pieces) := by
    simp [pieces, spaced]
  have before : Parsed .bitOr (left.cost + 17) (kindsOf (Expr.grouped 1 left left.pieces))
      (Writes left) := parsedLeft.grouped (by decide)
  have behind : Parsed .bitOr (right.cost + 17) (kindsOf (Expr.grouped 1 right right.pieces))
      (Writes right) := parsedRight.grouped (by decide)
  have costs : left.cost + 17 ≤ cost (.comparison comparator left right) ∧
      right.cost + 17 ≤ cost (.comparison comparator left right) := by
    simp only [cost, depth]
    omega
  unfold IsParsed
  rw [spelled]
  refine ((before.mono le_rfl costs.1).comparison comparator (behind.mono le_rfl costs.2)
    (Nat.le_add_left _ _)).imp ?_
  rintro _ ⟨span, first, second, rfl, written, writtenSecond⟩
  exact .comparison span comparator written writtenSecond

theorem subscript {target index : Expr} (parsedTarget : target.IsParsed)
    (parsedIndex : index.IsParsed) : IsParsed (.subscript target index) := by
  have spelled : kindsOf (Expr.subscript target index).pieces =
      kindsOf (Expr.grouped 5 target target.pieces) ++
        (mark "[" :: kindsOf index.pieces ++ [mark "]"]) := by
    simp [pieces, kindsOf, Piece.kind?, mark]
  have before : Parsed .primary (target.cost + 17)
      (kindsOf (Expr.grouped 5 target target.pieces)) (Writes target) :=
    parsedTarget.grouped (by decide)
  have inside : Parsed .named index.cost (kindsOf index.pieces) (Writes index) :=
    parsedIndex.mono (Nat.zero_le _) le_rfl
  have costs : target.cost + 17 ≤ cost (.subscript target index) ∧
      index.cost + 16 ≤ cost (.subscript target index) := by
    simp only [cost, depth]
    omega
  unfold IsParsed
  rw [spelled]
  refine ((before.mono le_rfl costs.1).subscript inside (Nat.le_add_left _ _) costs.2).imp ?_
  rintro _ ⟨span, first, second, rfl, written, writtenSecond⟩
  exact .subscript span written writtenSecond

theorem length {target : Expr} (parsed : target.IsParsed) : IsParsed (.length target) := by
  have spelled : kindsOf (Expr.length target).pieces =
      kindsOf (Expr.grouped 5 target target.pieces) ++ [mark ".", .name "length".toList] := by
    rw [pieces, kindsOf_append]
    rfl
  have before : Parsed .primary (target.cost + 17)
      (kindsOf (Expr.grouped 5 target target.pieces)) (Writes target) :=
    parsed.grouped (by decide)
  unfold IsParsed
  rw [spelled]
  refine ((before.property _ (Nat.le_add_left _ _)).mono le_rfl ?_).imp ?_
  · simp only [cost, depth]
    omega
  · rintro _ ⟨span, tree, rfl, written⟩
    exact .length span written

theorem emptyList : IsParsed (.list []) := by
  refine (Parsed.emptyList.mono le_rfl (Nat.le_add_left _ _)).imp ?_
  rintro _ ⟨span, rfl⟩
  exact .list span .nil

/-- The tokens of the items behind the first one. -/
theorem kindsOf_morePieces (others : List Expr) :
    kindsOf (morePieces others) = others.flatMap fun item => mark "," :: kindsOf item.pieces := by
  induction others with
  | nil => rfl
  | cons item others ih => simp [morePieces, ih, mark]

theorem list {item : Expr} {others : List Expr} (each : ∀ other ∈ item :: others, other.IsParsed) :
    IsParsed (.list (item :: others)) := by
  have spelled : kindsOf (Expr.list (item :: others)).pieces =
      mark "[" :: (kindsOf item.pieces ++ (others.flatMap (fun other =>
        mark "," :: kindsOf other.pieces) ++ if false then [mark ","] else [])) ++ [mark "]"] := by
    simp [pieces, kindsOf_morePieces, mark]
  have parsed (other : Expr) (member : other ∈ item :: others) :
      Parsed .named (cost (.list (item :: others)) - 17) (kindsOf other.pieces) (Writes other) := by
    have deeper := depth_item_lt member
    refine Parsed.mono (each other member) (Nat.zero_le _) ?_
    simp only [cost]
    omega
  have costly : 34 ≤ cost (.list (item :: others)) := by
    have deeper := depth_item_lt (List.mem_cons_self (a := item) (l := others))
    simp only [cost]
    omega
  unfold IsParsed
  rw [spelled]
  refine ((Parsed.list parsed (by omega) false).mono le_rfl (by omega)).imp ?_
  rintro _ ⟨span, trees, rfl, written⟩
  exact .list span written

end IsParsed

theorem isParsed (expression : Expr) : expression.IsParsed := by
  induction expression with
  | numeral constant => exact .numeral constant
  | name identifier => exact .name identifier
  | list items ih =>
    cases items with
    | nil => exact .emptyList
    | cons item others => exact .list ih
  | unary sign operand ih => exact .unary sign ih
  | binary operation left right ihLeft ihRight => exact .binary operation ihLeft ihRight
  | comparison comparator left right ihLeft ihRight => exact .comparison comparator ihLeft ihRight
  | subscript target index ihTarget ihIndex => exact .subscript ihTarget ihIndex
  | length target ih => exact .length ih

end Expr

end StepScript

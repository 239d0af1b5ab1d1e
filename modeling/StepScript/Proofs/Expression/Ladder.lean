import StepScript.Proofs.Expression.Yielding

/-!
# The ladder of levels

The parser descends a ladder of levels.  An expression is read at the level that its outermost
operator belongs to, and at every looser one, if what follows it goes on with it at none of them.
-/

namespace StepScript.Parser

open StepScript.Expr Lexer

namespace Level

/-- The place of a level on the ladder, counted from the loosest one. -/
def index : Level → Nat
  | .named => 0
  | .expression => 1
  | .disjunction => 2
  | .conjunction => 3
  | .inversion => 4
  | .comparison => 5
  | .bitOr => 6
  | .bitXor => 7
  | .bitAnd => 8
  | .shift => 9
  | .sum => 10
  | .term => 11
  | .factor => 12
  | .power => 13
  | .awaited => 14
  | .primary => 15
  | .atom => 16

/-- The next tighter level.  There is none behind the last one. -/
def inner : Level → Level
  | .named => .expression
  | .expression => .disjunction
  | .disjunction => .conjunction
  | .conjunction => .inversion
  | .inversion => .comparison
  | .comparison => .bitOr
  | .bitOr => .bitXor
  | .bitXor => .bitAnd
  | .bitAnd => .shift
  | .shift => .sum
  | .sum => .term
  | .term => .factor
  | .factor => .power
  | .power => .awaited
  | .awaited => .primary
  | .primary | .atom => .atom

theorem index_inner {level : Level} (loose : level.index < 16) :
    level.inner.index = level.index + 1 := by
  cases level <;> first | rfl | exact absurd loose (by decide)

theorem index_injective {level other : Level} (same : level.index = other.index) :
    level = other := by
  cases level <;> cases other <;> first | rfl | exact absurd same (by decide)

theorem index_le (level : Level) : level.index ≤ 16 := by
  cases level <;> decide

end Level

/-- The tokens that may follow an expression, each with the loosest level at which an expression is
not gone on with in front of it. -/
def followers : List (Nat × TokenKind) :=
  [(0, .finish), (0, mark ")"), (0, mark "]"), (0, mark ","), (6, mark "<"), (6, mark "<="),
    (6, mark ">"), (6, mark ">="), (6, mark "=="), (6, mark "!="), (11, mark "+"), (11, mark "-"),
    (12, mark "*"), (12, mark "/"), (12, mark "%"), (16, mark "."), (16, mark "[")]

/-- Whether an expression that is read at a level ends in front of a token. -/
def Ends (level : Level) (kind : TokenKind) : Prop :=
  ∃ entry ∈ followers, entry.2 = kind ∧ entry.1 ≤ level.index

instance (level : Level) (kind : TokenKind) : Decidable (Ends level kind) :=
  inferInstanceAs (Decidable (∃ entry ∈ followers, entry.2 = kind ∧ entry.1 ≤ level.index))

theorem Ends.mono {loose tight : Level} (below : loose.index ≤ tight.index) {kind : TokenKind}
    (ends : Ends loose kind) : Ends tight kind := by
  rcases ends with ⟨entry, member, same, bound⟩
  exact ⟨entry, member, same, bound.trans below⟩

/-- What holds of all followers up to a level holds of a token in front of which an expression of
that level ends. -/
@[elab_as_elim]
theorem Ends.of_followers {level : Level} {motive : TokenKind → Prop} {kind : TokenKind}
    (ends : Ends level kind)
    (each : ∀ entry ∈ followers, entry.1 ≤ level.index → motive entry.2) : motive kind := by
  rcases ends with ⟨entry, member, rfl, bound⟩
  exact each entry member bound

/-- Whether a token can begin an expression that is read at a level: signs stand in front of tighter
expressions. -/
def Begins (level : Level) : TokenKind → Prop
  | .integer _ | .double _ | .name _ => True
  | .mark symbol =>
    symbol ∈ [['('], ['[']] ∨ symbol ∈ [['+'], ['-']] ∧ level.index ≤ Level.factor.index
  | _ => False

/-- Where one way down the ladder can be paid, one call can be made. -/
theorem exists_fuel {level : Level} {cost fuel : Nat} (costly : 17 ≤ cost)
    (enough : cost ≤ fuel + level.index) : ∃ less, fuel = less + 1 := by
  have bound := level.index_le
  exact ⟨fuel - 1, by omega⟩

/-- A reader of a level reads tokens of some kinds, wherever they stand, as a tree with a
property. -/
def Reads (parser : Parser Tree) (level : Level) (kinds : List TokenKind) (good : Tree → Prop) :
    Prop :=
  ∀ tokens last more, tokens.map Token.kind = kinds → Ends level last.kind →
    Yields parser (tokens ++ last :: more) (last :: more) good

/-- What the tokens of an expression look like. -/
structure Shaped (level : Level) (kinds : List TokenKind) : Prop where
  begins : ∃ first rest, kinds = first :: rest ∧ Begins level first
  plain : mark ":=" ∉ kinds

variable {sub : Ladder} {kinds : List TokenKind} {good : Tree → Prop}

theorem Begins.ne_word {level : Level} {kind : TokenKind} (begins : Begins level kind)
    (spelling : String) : kind ≠ word spelling := by
  rintro rfl
  exact begins

theorem Begins.ne_mark {level : Level} {kind : TokenKind} (begins : Begins level kind)
    (symbol : String) (other : symbol.toList ∉ [['('], ['['], ['+'], ['-']]) :
    kind ≠ mark symbol := by
  rintro rfl
  rcases begins with bracket | ⟨sign, _⟩
  · exact other (List.mem_append_left [['+'], ['-']] bracket)
  · exact other (List.mem_append_right [['('], ['[']] sign)

theorem Begins.signOperator_eq_none {kind : TokenKind} (begins : Begins .power kind) :
    signOperator kind = none := by
  cases kind with
  | mark symbol =>
    rcases begins with bracket | ⟨_, bound⟩
    · fin_cases bracket <;> rfl
    · exact absurd bound (by decide)
  | _ => rfl

theorem Ends.ne_word {level : Level} {kind : TokenKind} (ends : Ends level kind)
    (spelling : String) :
    kind ≠ word spelling := by
  refine ends.of_followers fun entry member _ => ?_
  fin_cases member <;> simp [mark, word]

theorem yields_leftChain {operator? : TokenKind → Option BinaryOperator} {operand : Parser Tree}
    {ahead more : List Token} {last : Token} (single : Yields operand ahead (last :: more) good)
    (stops : operator? last.kind = none) :
    Yields (leftChain operator? operand) ahead (last :: more) good := by
  refine (yields_position _).bind fun start _ => ?_
  refine single.bind fun tree holds => ?_
  refine (Rounds.refl holds).yields fun value => ?_
  refine yields_peek.bind ?_
  rintro found rfl
  rw [stops]
  exact .pure rfl

theorem yields_logicalChain {operator : TokenKind} {operand : Parser Tree}
    {ahead more : List Token} {last : Token} (single : Yields operand ahead (last :: more) good)
    (stops : last.kind ≠ operator) :
    Yields (logicalChain operator operand) ahead (last :: more) good := by
  refine (yields_position _).bind fun start _ => ?_
  refine single.bind fun tree holds => ?_
  refine (Rounds.refl holds).yields fun value => ?_
  exact yields_missed stops (.pure rfl)

theorem yields_comparisonOperator {token : Token} {rest : List Token} {comparator : Comparator}
    (same : token.kind = .mark comparator.symbol) :
    Yields comparisonOperator? (token :: rest) rest (· = some (some comparator)) := by
  have known : Comparator.ofSymbol? comparator.symbol = some comparator := by
    cases comparator <;> rfl
  refine yields_peek.bind ?_
  rintro kind rfl
  rw [same]
  simp only [known]
  exact yields_advance.bind fun _ _ => .pure rfl

theorem yields_comparisonOperator_none {last : Token} {more : List Token}
    (ends : Ends .comparison last.kind) :
    Yields comparisonOperator? (last :: more) (last :: more) (· = none) := by
  refine yields_peek.bind ?_
  rintro kind rfl
  have noWord (spelling : String) := ends.ne_word spelling
  split
  · next symbol same =>
    have unknown : Comparator.ofSymbol? symbol = none := by
      rw [same] at ends
      rcases ends with ⟨entry, member, found, bound⟩
      fin_cases member <;> first
        | (cases found <;> rfl)
        | exact absurd bound (by decide)
    rw [unknown]
    exact .pure rfl
  · refine yields_missed (noWord "in") ?_
    refine yields_missed (noWord "is") ?_
    exact yields_missed (noWord "not") (.pure rfl)

/-! ## Chains -/

/-- The levels whose operands stand in a row, grouped to the left. -/
def Level.Chains : Level → Prop
  | .sum | .term | .primary => True
  | _ => False

/-- How a chain goes on that begins at a position. -/
def link (sub : Ladder) (level : Level) (start : Nat) (value : Tree) : Parser (Option Tree) :=
  match level with
  | .sum => leftLink (operatorIn [("+", .plus), ("-", .minus)]) (sub .term) start value
  | .term =>
    leftLink (operatorIn [("*", .times), ("/", .over), ("%", .modulo), ("//", .unsupported),
      ("@", .unsupported)]) (sub .factor) start value
  | .primary => primaryLink start value
  | _ => return none
where
  /-- An operator and a further operand. -/
  leftLink (operator? : TokenKind → Option BinaryOperator) (operand : Parser Tree) (start : Nat)
      (left : Tree) : Parser (Option Tree) := do
    match operator? (← peek) with
    | some operator =>
      advance
      let right ← operand
      return some (.binary (← spanFrom start) operator left right)
    | none => return none
  /-- A property, a call or a subscript. -/
  primaryLink (start : Nat) (value : Tree) : Parser (Option Tree) := do
    if ← take? (mark ".") then
      match ← peek with
      | .name spelling =>
        advance
        return some (.attribute (← spanFrom start) value (Text.normalForm spelling))
      | _ => fail
    else if ← take? (mark "(") then
      arguments sub
      return some (.rejected (← spanFrom start) .call)
    else if ← take? (mark "[") then
      let index ← subscriptItems sub
      expect (mark "]")
      return some (.subscript (← spanFrom start) value index)
    else return none

theorem level_eq_chain {level : Level} (chains : level.Chains) (sub : Ladder) :
    Parser.level sub level = (do
      let start ← position
      let first ← sub level.inner
      extend (link sub level start) first) := by
  cases level with
  | sum => rfl
  | term => rfl
  | primary => rfl
  | _ => exact absurd chains id

/-- An operator leads on with a further operand. -/
theorem yields_leftLink {operator? : TokenKind → Option BinaryOperator} {operand : Parser Tree}
    {token : Token} {ahead rest : List Token} {operator : BinaryOperator}
    (found : operator? token.kind = some operator) (second : Yields operand ahead rest good)
    (start : Nat) (left : Tree) :
    Yields (link.leftLink operator? operand start left) (token :: ahead) rest fun found =>
      ∃ span right, found = some (.binary span operator left right) ∧ good right := by
  refine yields_peek.bind ?_
  rintro kind rfl
  rw [found]
  refine yields_advance.bind fun _ _ => ?_
  refine second.bind fun right holds => ?_
  exact (yields_spanFrom _ _).bind fun span _ => .pure ⟨span, right, rfl, holds⟩

/-- A chain ends where its level does. -/
theorem yields_link_none {level : Level} (chains : level.Chains) {last : Token} {more : List Token}
    (ends : Ends level last.kind) (start : Nat) (value : Tree) :
    Yields (link sub level start value) (last :: more) (last :: more) (· = none) := by
  cases level with
  | sum =>
    refine yields_peek.bind ?_
    rintro kind rfl
    rw [show operatorIn [("+", .plus), ("-", .minus)] last.kind = none from
      ends.of_followers (by decide)]
    exact .pure rfl
  | term =>
    refine yields_peek.bind ?_
    rintro kind rfl
    rw [show operatorIn [("*", .times), ("/", .over), ("%", .modulo), ("//", .unsupported),
      ("@", .unsupported)] last.kind = none from ends.of_followers (by decide)]
    exact .pure rfl
  | primary =>
    refine yields_missed (ends.of_followers (by decide)) ?_
    refine yields_missed (ends.of_followers (by decide)) ?_
    exact yields_missed (ends.of_followers (by decide)) (.pure rfl)
  | _ => exact absurd chains id

/-- A chain that reads tokens of some kinds has, in front of what follows them, a tree with a
property. -/
def Chained (sub : Ladder) (level : Level) (kinds : List TokenKind) (good : Tree → Prop) : Prop :=
  ∀ start tokens last more, tokens.map Token.kind = kinds → Ends level.inner last.kind →
    ∃ middle, Yields (sub level.inner) (tokens ++ last :: more) middle fun first =>
      Rounds (link sub level start) first middle (last :: more) good

namespace Chained

variable {level : Level} {others : List TokenKind} {better : Tree → Prop}

theorem of_reads (reads : Reads (sub level.inner) level.inner kinds good) :
    Chained sub level kinds good := by
  intro start tokens last more spelled ends
  exact ⟨last :: more, (reads tokens last more spelled ends).mono fun _ => Rounds.refl⟩

/-- A chain goes on with tokens that are one more round. -/
theorem append (chained : Chained sub level kinds good)
    (starts : ∃ first rest, others = first :: rest ∧ Ends level.inner first)
    (round : ∀ start value, good value → ∀ tokens last more, tokens.map Token.kind = others →
      Ends level.inner last.kind → Yields (link sub level start value) (tokens ++ last :: more)
        (last :: more) fun found => ∃ result, found = some result ∧ better result) :
    Chained sub level (kinds ++ others) better := by
  intro start tokens last more spelled ends
  rcases List.map_eq_append_iff.mp spelled with ⟨front, back, rfl, spelledFront, spelledBack⟩
  rcases starts with ⟨kind, rest, rfl, startEnds⟩
  rcases List.map_eq_cons_iff.mp spelledBack with ⟨first, later, rfl, rfl, _⟩
  rcases chained start front first (later ++ last :: more) spelledFront startEnds with
    ⟨middle, yields⟩
  refine ⟨middle, ?_⟩
  simp only [List.append_assoc, List.cons_append] at yields ⊢
  refine yields.mono fun value rounds => ?_
  exact rounds.tail (fun value holds => round start value holds _ last more spelledBack ends)
    (by simp)

theorem reads (chained : Chained sub level kinds good) (chains : level.Chains)
    (loose : level.index < 16) :
    Reads (Parser.level sub level) level kinds good := by
  intro tokens last more spelled ends
  rw [level_eq_chain chains]
  refine (yields_position _).bind fun start _ => ?_
  rcases chained start tokens last more spelled
    (ends.mono (by rw [Level.index_inner loose]; omega)) with ⟨middle, yields⟩
  refine yields.bind fun first rounds => ?_
  exact rounds.yields fun value => yields_link_none chains ends start value

end Chained

/-- The second of some tokens gives no value a name. -/
theorem Shaped.second_ne {level : Level} {first : Token} {others : List Token}
    (shaped : Shaped level kinds) (spelled : (first :: others).map Token.kind = kinds)
    (last : Token) (more : List Token) (ends : Ends .named last.kind) :
    ∃ second rest, others ++ last :: more = second :: rest ∧ second.kind ≠ mark ":=" := by
  cases others with
  | nil => exact ⟨last, more, rfl, ends.of_followers (by decide)⟩
  | cons second rest =>
    refine ⟨second, rest ++ last :: more, rfl, ?_⟩
    rintro named
    exact shaped.plain (spelled ▸ named ▸ by simp)

/-- A level without an operator of its own reads what the next tighter level reads. -/
theorem Reads.outward {level : Level} (loose : level.index < 16) (shaped : Shaped level.inner kinds)
    (reads : Reads (sub level.inner) level.inner kinds good) :
    Reads (Parser.level sub level) level kinds good := by
  intro tokens last more spelled ends
  have inner := reads tokens last more spelled (ends.mono (by rw [Level.index_inner loose]; omega))
  obtain ⟨first, others, rfl, begins⟩ : ∃ first others, tokens = first :: others ∧
      Begins level.inner first.kind := by
    rcases shaped.begins with ⟨kind, rest, rfl, begins⟩
    rcases List.map_eq_cons_iff.mp spelled with ⟨first, others, same, rfl, _⟩
    exact ⟨first, others, same, begins⟩
  rw [List.cons_append] at inner ⊢
  cases level with
  | named =>
    rcases shaped.second_ne spelled last more ends with ⟨second, rest, same, other⟩
    rw [same] at inner ⊢
    refine (yields_position _).bind fun start _ => ?_
    refine yields_peek.bind ?_
    rintro kind rfl
    split
    · refine yields_peekSecond.bind ?_
      rintro kind rfl
      rw [if_neg other]
      exact inner
    · exact inner
  | expression =>
    refine (yields_position _).bind fun start _ => ?_
    refine yields_missed (begins.ne_word "lambda") ?_
    refine inner.bind fun tree holds => ?_
    exact yields_missed (ends.ne_word "if") (.pure holds)
  | disjunction => exact yields_logicalChain inner (ends.ne_word "or")
  | conjunction => exact yields_logicalChain inner (ends.ne_word "and")
  | inversion =>
    refine (yields_position _).bind fun start _ => ?_
    exact yields_missed (begins.ne_word "not") inner
  | comparison =>
    refine (yields_position _).bind fun start _ => ?_
    refine inner.bind fun tree holds => ?_
    refine (yields_extend_none fun value => ?_).bind ?_
    · refine (yields_comparisonOperator_none ends).bind ?_
      rintro found rfl
      exact .pure rfl
    · rintro found rfl
      exact .pure holds
  | bitOr => exact yields_leftChain inner (ends.of_followers (by decide))
  | bitXor => exact yields_leftChain inner (ends.of_followers (by decide))
  | bitAnd => exact yields_leftChain inner (ends.of_followers (by decide))
  | shift => exact yields_leftChain inner (ends.of_followers (by decide))
  | sum =>
    have chained : Chained sub .sum kinds good := .of_reads reads
    exact chained.reads trivial loose (first :: others) last more spelled ends
  | term =>
    have chained : Chained sub .term kinds good := .of_reads reads
    exact chained.reads trivial loose (first :: others) last more spelled ends
  | factor =>
    refine (yields_position _).bind fun start _ => ?_
    refine yields_peek.bind ?_
    rintro kind rfl
    rw [begins.signOperator_eq_none]
    exact inner
  | power =>
    refine (yields_position _).bind fun start _ => ?_
    refine inner.bind fun tree holds => ?_
    exact yields_missed (ends.of_followers (by decide)) (.pure holds)
  | awaited =>
    refine (yields_position _).bind fun start _ => ?_
    exact yields_missed (begins.ne_word "await") inner
  | primary =>
    have chained : Chained sub .primary kinds good := .of_reads reads
    exact chained.reads trivial loose (first :: others) last more spelled ends
  | atom => exact absurd loose (by decide)

theorem yields_comparison {ahead behind more : List Token} {token last : Token}
    {comparator : Comparator}
    {fine : Tree → Prop} (same : token.kind = .mark comparator.symbol)
    (ends : Ends .comparison last.kind) (first : Yields (sub .bitOr) ahead (token :: behind) good)
    (second : Yields (sub .bitOr) behind (last :: more) fine)
    (shorter : (last :: more).length < (token :: behind).length) :
    Yields (Parser.comparison sub) ahead (last :: more) fun tree => ∃ span left right,
      tree = .comparison span left [some comparator] [right] ∧ good left ∧ fine right := by
  refine (yields_position _).bind fun start _ => ?_
  refine first.bind fun left holds => ?_
  refine (yields_extend_once
    (fun found => ∃ right, found = ([some comparator], [right]) ∧ fine right)
    ?_ shorter fun value => ?_).bind ?_
  · refine (yields_comparisonOperator same).bind ?_
    rintro found rfl
    exact second.bind fun right finer => .pure ⟨_, rfl, right, rfl, finer⟩
  · refine (yields_comparisonOperator_none ends).bind ?_
    rintro found rfl
    exact .pure rfl
  · rintro _ ⟨right, rfl, finer⟩
    exact (yields_spanFrom _ _).bind fun span _ => .pure ⟨span, left, right, rfl, holds, finer⟩

/-! ## All levels -/

/-- Tokens of some kinds are read as a tree with a property at a level and at all looser ones, if
enough nested calls may be made there.  Each level further out costs one call. -/
structure Parsed (top : Level) (cost : Nat) (kinds : List TokenKind)
    (good : Tree → Prop) : Prop where
  shaped : Shaped top kinds
  reads : ∀ level : Level, level.index ≤ top.index → ∀ fuel, cost ≤ fuel + level.index →
    Reads (parse fuel level) level kinds good
  chained : ∀ level : Level, level.Chains → level.index ≤ top.index → ∀ fuel,
    cost ≤ fuel + level.index + 1 → Chained (parse fuel) level kinds good

theorem Begins.mono {loose tight : Level} (below : loose.index ≤ tight.index) {kind : TokenKind}
    (begins : Begins tight kind) : Begins loose kind := by
  cases kind with
  | mark symbol => exact begins.imp_right (And.imp_right below.trans)
  | _ => exact begins

theorem Shaped.mono {loose tight : Level} (below : loose.index ≤ tight.index)
    (shaped : Shaped tight kinds) : Shaped loose kinds := by
  rcases shaped.begins with ⟨first, rest, same, begins⟩
  exact ⟨⟨first, rest, same, begins.mono below⟩, shaped.plain⟩

theorem Shaped.append {level : Level} {others : List TokenKind} (shaped : Shaped level kinds)
    (plain : mark ":=" ∉ kinds ++ others) : Shaped level (kinds ++ others) := by
  rcases shaped.begins with ⟨first, rest, same, begins⟩
  exact ⟨⟨first, rest ++ others, by rw [same, List.cons_append], begins⟩, plain⟩

theorem Reads.outward_all {top : Level} {cost : Nat} (shaped : Shaped top kinds)
    (costly : 17 ≤ cost)
    (base : ∀ fuel, cost ≤ fuel + top.index → Reads (parse fuel top) top kinds good) (level : Level)
    (below : level.index ≤ top.index) (fuel : Nat) (enough : cost ≤ fuel + level.index) :
    Reads (parse fuel level) level kinds good := by
  by_cases same : level = top
  · exact same ▸ base fuel (same ▸ enough)
  have looser : level.index < top.index := by
    rcases Nat.lt_or_ge level.index top.index with less | more
    · exact less
    · exact absurd (Level.index_injective (below.antisymm more)) same
  have bound := top.index_le
  have next : level.inner.index = level.index + 1 := Level.index_inner (by omega)
  obtain ⟨fuel, rfl⟩ := exists_fuel costly enough
  have inner := outward_all shaped costly base level.inner (by omega) fuel (by omega)
  exact inner.outward (by omega) (shaped.mono (by omega))
termination_by top.index - level.index

/-! ## Brackets -/

theorem yields_starredItem {first : Token} {others rest : List Token}
    (begins : Begins .named first.kind)
    (inner : Yields (sub .named) (first :: others) rest good) :
    Yields (starredItem sub) (first :: others) rest good := by
  refine (yields_position _).bind fun start _ => ?_
  exact yields_missed (begins.ne_mark _ (by decide)) inner

theorem yields_atSource_false {last : Token} {more : List Token} (ends : Ends .named last.kind) :
    Yields atSource (last :: more) (last :: more) (· = false) := by
  refine yields_peek.bind ?_
  rintro kind rfl
  rw [if_neg (ends.ne_word "for"), if_neg (ends.ne_word "async")]
  exact .pure rfl

theorem yields_parenthesized {opening first closing : Token} {others more : List Token}
    (opens : opening.kind = mark "(") (begins : Begins .named first.kind)
    (closes : closing.kind = mark ")")
    (inner : Yields (sub .named) (first :: others) (closing :: more) good) :
    Yields (Parser.parenthesized sub) (opening :: first :: others) more good := by
  have ends : Ends .named closing.kind := closes ▸ by decide
  refine (yields_position _).bind fun start _ => ?_
  refine (yields_expect opens).bind fun _ _ => ?_
  refine yields_missed (begins.ne_mark _ (by decide)) ?_
  refine (yields_at false (by simp [begins.ne_word])).bind ?_
  rintro _ rfl
  refine (yields_at false (by simp [begins.ne_mark "*" (by decide)])).bind ?_
  rintro _ rfl
  refine (yields_starredItem begins inner).bind fun tree holds => ?_
  refine (yields_at false (by simp [closes, mark])).bind ?_
  rintro _ rfl
  refine (yields_atSource_false ends).bind ?_
  rintro _ rfl
  refine (yields_expect closes).bind fun _ _ => ?_
  exact .pure holds

theorem yields_atom_group {opening : Token} {ahead rest : List Token}
    (opens : opening.kind = mark "(")
    (group : Yields (Parser.parenthesized sub) (opening :: ahead) rest good) :
    Yields (atom sub) (opening :: ahead) rest good := by
  refine (yields_position _).bind fun start _ => ?_
  refine yields_peek.bind ?_
  rintro kind rfl
  rw [opens]
  exact group

theorem yields_atom_list {opening : Token} {ahead rest : List Token}
    (opens : opening.kind = mark "[")
    (group : Yields (bracketed sub) (opening :: ahead) rest good) :
    Yields (atom sub) (opening :: ahead) rest good := by
  refine (yields_position _).bind fun start _ => ?_
  refine yields_peek.bind ?_
  rintro kind rfl
  rw [opens]
  exact group

/-- The leaf that a token is by itself. -/
def leaf? : TokenKind → Option (Span → Tree)
  | .integer value => some (.integer · value)
  | .double value => some (.double · value)
  | .name spelling => some (.name · (Text.normalForm spelling))
  | _ => none

theorem yields_atom_leaf {token : Token} {rest : List Token} {leaf : Span → Tree}
    (same : leaf? token.kind = some leaf) (holds : ∀ span, good (leaf span)) :
    Yields (atom sub) (token :: rest) rest good := by
  refine (yields_position _).bind fun start _ => ?_
  refine yields_peek.bind ?_
  rintro kind rfl
  cases kind : token.kind with
  | integer | double | name =>
    rw [kind] at same
    cases same
    refine yields_advance.bind fun _ _ => ?_
    exact (yields_spanFrom _ _).bind fun span _ => .pure (holds span)
  | _ => simp [kind, leaf?] at same

theorem yields_property {point property : Token} {rest : List Token} {spelling : Text}
    (points : point.kind = mark ".") (named : property.kind = .name spelling) (start : Nat)
    (value : Tree) :
    Yields (link sub .primary start value) (point :: property :: rest) rest fun found =>
      ∃ span, found = some (.attribute span value (Text.normalForm spelling)) := by
  refine yields_taken points ?_
  refine yields_peek.bind ?_
  rintro kind rfl
  rw [named]
  refine yields_advance.bind fun _ _ => ?_
  exact (yields_spanFrom _ _).bind fun span _ => .pure ⟨span, rfl⟩

/-- An opening bracket behind a value leads on with an index. -/
theorem yields_subscript {opening first closing : Token} {others more : List Token}
    (opens : opening.kind = mark "[") (begins : Begins .named first.kind)
    (closes : closing.kind = mark "]")
    (inner : Yields (sub .named) (first :: others) (closing :: more) good) (start : Nat)
    (value : Tree) :
    Yields (link sub .primary start value) (opening :: first :: others) more fun found =>
      ∃ span index, found = some (.subscript span value index) ∧ good index := by
  have item : Yields (subscriptItem sub) (first :: others) (closing :: more) good := by
    refine (yields_position _).bind fun start _ => ?_
    refine (yields_at false (by simp [begins.ne_mark ":" (by decide)])).bind ?_
    rintro _ rfl
    refine yields_missed (begins.ne_mark _ (by decide)) ?_
    refine inner.bind fun tree holds => ?_
    refine (yields_at false (by simp [closes, mark])).bind ?_
    rintro _ rfl
    exact .pure holds
  have items : Yields (subscriptItems sub) (first :: others) (closing :: more) good := by
    refine (yields_position _).bind fun start _ => ?_
    refine (yields_at false (by simp [begins.ne_mark "*" (by decide)])).bind ?_
    rintro _ rfl
    refine item.bind fun tree holds => ?_
    refine (yields_at false (by simp [closes, mark])).bind ?_
    rintro _ rfl
    exact .pure holds
  refine yields_missed (by simp [opens, mark]) ?_
  refine yields_missed (by simp [opens, mark]) ?_
  refine yields_taken opens ?_
  refine items.bind fun index holds => ?_
  refine (yields_expect closes).bind fun _ _ => ?_
  exact (yields_spanFrom _ _).bind fun span _ => .pure ⟨span, index, rfl, holds⟩

/-- How a list goes on behind some items, last first. -/
def itemLink (sub : Ladder) (items : List Tree) : Parser (Option (List Tree)) := do
  if ← take? (mark ",") then
    if closes (← peek) then return none
    else return some ((← starredItem sub) :: items)
  else return none

theorem moreItems_eq (sub : Ladder) (first : Tree) :
    moreItems (starredItem sub) closes first = (do
      let items ← extend (itemLink sub) [first]
      return items.reverse) :=
  rfl

theorem yields_item {comma first : Token} {others rest : List Token}
    (separates : comma.kind = mark ",")
    (begins : Begins .named first.kind) (item : Yields (sub .named) (first :: others) rest good)
    (items : List Tree) :
    Yields (itemLink sub items) (comma :: first :: others) rest fun found =>
      ∃ tree, found = some (tree :: items) ∧ good tree := by
  refine yields_taken separates ?_
  refine yields_peek.bind ?_
  rintro kind rfl
  have goesOn : closes first.kind = false := by
    simp [closes, begins.ne_mark ")" (by decide), begins.ne_mark "]" (by decide),
      begins.ne_mark "\x7d" (by decide)]
  rw [goesOn]
  exact (yields_starredItem begins item).bind fun tree holds => .pure ⟨tree, rfl, holds⟩

theorem yields_emptyList {opening closing : Token} {more : List Token}
    (opens : opening.kind = mark "[") (closes : closing.kind = mark "]") :
    Yields (bracketed sub) (opening :: closing :: more) more
      fun tree => ∃ span, tree = .list span [] := by
  refine (yields_position _).bind fun start _ => ?_
  refine (yields_expect opens).bind fun _ _ => ?_
  refine yields_taken closes ?_
  exact (yields_spanFrom _ _).bind fun span _ => .pure ⟨span, rfl⟩

/-- Brackets around items are a list of them. -/
theorem yields_list {opening first next closing : Token} {others behind more : List Token}
    {fine : List Tree → Prop} (opens : opening.kind = mark "[") (begins : Begins .named first.kind)
    (ends : Ends .named next.kind) (closes : closing.kind = mark "]")
    (item : Yields (sub .named) (first :: others) (next :: behind) good)
    (items : ∀ tree, good tree →
      Yields (moreItems (starredItem sub) Parser.closes tree) (next :: behind)
        (closing :: more) fine) :
    Yields (bracketed sub) (opening :: first :: others) more fun tree =>
      ∃ span trees, tree = .list span trees ∧ fine trees := by
  refine (yields_position _).bind fun start _ => ?_
  refine (yields_expect opens).bind fun _ _ => ?_
  refine yields_missed (begins.ne_mark _ (by decide)) ?_
  refine (yields_at false (by simp [begins.ne_mark "*" (by decide)])).bind ?_
  rintro _ rfl
  refine (yields_starredItem begins item).bind fun tree holds => ?_
  refine (yields_atSource_false ends).bind ?_
  rintro _ rfl
  refine (items tree holds).bind fun trees finer => ?_
  refine (yields_expect closes).bind fun _ _ => ?_
  exact (yields_spanFrom _ _).bind fun span _ => .pure ⟨span, trees, rfl, finer⟩

namespace Parsed

variable {top : Level} {cost : Nat}

theorem of_reads (single : ¬top.Chains) (shaped : Shaped top kinds) (costly : 17 ≤ cost)
    (base : ∀ fuel, cost ≤ fuel + top.index → Reads (parse fuel top) top kinds good) :
    Parsed top cost kinds good where
  shaped := shaped
  reads := Reads.outward_all shaped costly base
  chained level chains below fuel enough := by
    have bound := top.index_le
    have other : level.index ≠ top.index := by
      intro same
      exact single (Level.index_injective same ▸ chains)
    have next : level.inner.index = level.index + 1 := Level.index_inner (by omega)
    exact .of_reads (Reads.outward_all shaped costly base level.inner (by omega) fuel (by omega))

theorem of_chained (chains : top.Chains) (shaped : Shaped top kinds) (costly : 17 ≤ cost)
    (base : ∀ fuel, cost ≤ fuel + top.index + 1 → Chained (parse fuel) top kinds good) :
    Parsed top cost kinds good := by
  have loose : top.index < 16 := by
    cases top <;> first | decide | exact absurd chains id
  have reads : ∀ fuel, cost ≤ fuel + top.index → Reads (parse fuel top) top kinds good := by
    intro fuel enough
    obtain ⟨fuel, rfl⟩ := exists_fuel costly enough
    exact (base fuel (by omega)).reads chains loose
  refine ⟨shaped, Reads.outward_all shaped costly reads, ?_⟩
  intro level levelChains below fuel enough
  by_cases same : level = top
  · exact same ▸ base fuel (same ▸ enough)
  · have other : level.index ≠ top.index := fun equal => same (Level.index_injective equal)
    have next : level.inner.index = level.index + 1 := Level.index_inner (by omega)
    exact .of_reads (Reads.outward_all shaped costly reads level.inner (by omega) fuel (by omega))

theorem mono {loose : Level} {more : Nat} (parsed : Parsed top cost kinds good)
    (below : loose.index ≤ top.index) (fits : cost ≤ more) : Parsed loose more kinds good where
  shaped := parsed.shaped.mono below
  reads level inside fuel enough := parsed.reads level (inside.trans below) fuel (fits.trans enough)
  chained level chains inside fuel enough :=
    parsed.chained level chains (inside.trans below) fuel (fits.trans enough)

theorem imp {better : Tree → Prop} (parsed : Parsed top cost kinds good)
    (weaker : ∀ tree, good tree → better tree) : Parsed top cost kinds better where
  shaped := parsed.shaped
  reads level below fuel enough tokens last more spelled ends :=
    (parsed.reads level below fuel enough tokens last more spelled ends).mono weaker
  chained level chains below fuel enough start tokens last more spelled ends := by
    rcases parsed.chained level chains below fuel enough start tokens last more spelled ends with
      ⟨middle, yields⟩
    exact ⟨middle, yields.mono fun _ rounds => rounds.mono weaker⟩

/-- In parentheses, tokens are read at every level. -/
theorem parenthesized (parsed : Parsed .named cost kinds good) (costly : 17 ≤ cost) :
    Parsed .atom (cost + 17) (mark "(" :: kinds ++ [mark ")"]) good := by
  have plain : mark ":=" ∉ mark "(" :: kinds ++ [mark ")"] := by
    simpa [mark] using parsed.shaped.plain
  refine of_reads id ⟨⟨_, _, rfl, .inl (by decide)⟩, plain⟩ (by omega) ?_
  intro fuel enough tokens last more spelled ends
  rcases List.map_eq_append_iff.mp spelled with ⟨front, back, rfl, spelledFront, spelledBack⟩
  rcases List.map_eq_cons_iff.mp spelledFront with ⟨opening, inside, rfl, opens, spelledInside⟩
  rcases List.map_eq_singleton_iff.mp spelledBack with ⟨closing, rfl, closes⟩
  rcases parsed.shaped.begins with ⟨kind, rest, rfl, begins⟩
  rcases List.map_eq_cons_iff.mp spelledInside with ⟨first, others, rfl, rfl, _⟩
  obtain ⟨fuel, rfl⟩ := exists_fuel (by omega) enough
  have inner := parsed.reads .named le_rfl fuel (by simp only [Level.index] at enough ⊢; omega)
    (first :: others) closing (last :: more) spelledInside
    (closes ▸ by decide)
  have group := yields_atom_group opens (yields_parenthesized opens begins closes inner)
  simpa [parse, Parser.level] using group

end Parsed

end StepScript.Parser

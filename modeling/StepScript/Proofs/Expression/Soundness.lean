import StepScript.Proofs.Expression.Derivation

/-!
# What is read can be derived

A tree that the parser gives tells which tokens were taken, if every node of it is permitted: the
tokens derive the tree.  The constructs that cannot be evaluated leave a node behind, so nothing has
to be known of the tokens that they are made of.
-/

namespace StepScript

def Cursor.kinds (cursor : Cursor) : List TokenKind :=
  cursor.ahead.map Token.kind

namespace Parser

/-- Whatever a parser gives at a cursor has a property, together with the cursor that it leaves. -/
def Ensures {α : Type} (parser : Parser α) (cursor : Cursor) (post : α → Cursor → Prop) : Prop :=
  ∀ value reached, parser cursor = .ok (value, reached) → post value reached

/-- Whatever a parser gives has a property, wherever it starts. -/
def Gives {α : Type} (parser : Parser α) (good : α → Prop) : Prop :=
  ∀ cursor, Ensures parser cursor fun value _ => good value

/-! ## Parsers in a row -/

section

variable {α β : Type} {parser : Parser α} {next : α → Parser β} {cursor : Cursor}
  {middle : α → Cursor → Prop} {post : β → Cursor → Prop} {good : β → Prop}

theorem Ensures.bind (first : Ensures parser cursor middle)
    (second : ∀ value reached, middle value reached → Ensures (next value) reached post) :
    Ensures (parser >>= next) cursor post := by
  intro result reached ran
  change (parser cursor >>= fun found => next found.1 found.2) = .ok (result, reached) at ran
  cases found : parser cursor with
  | error failure => simp [found] at ran; cases ran
  | ok found' =>
    rw [found] at ran
    exact second found'.1 found'.2 (first _ _ found) result reached ran

/-- A parser that takes nothing leaves its cursor to the next one. -/
theorem Ensures.look (first : Ensures parser cursor fun _ reached => reached = cursor)
    (second : ∀ value, Ensures (next value) cursor post) :
    Ensures (parser >>= next) cursor post := by
  refine first.bind fun value reached same => ?_
  rw [same]
  exact second value

/-- Where nothing is asked of a parser, the next one starts somewhere. -/
theorem Ensures.skip (second : ∀ value reached, Ensures (next value) reached post) :
    Ensures (parser >>= next) cursor post :=
  .bind (fun _ _ _ => trivial) fun value reached _ => second value reached

theorem Ensures.pure {value : β} (holds : post value cursor) :
    Ensures (Pure.pure value) cursor post := by
  intro result reached ran
  cases ran
  exact holds

theorem ensures_pure (value : β) (cursor : Cursor) :
    Ensures (Pure.pure value) cursor fun found reached => found = value ∧ reached = cursor :=
  .pure ⟨rfl, rfl⟩

theorem Ensures.fail : Ensures (fail : Parser β) cursor post := by
  intro result reached ran
  cases ran

theorem Ensures.mono {weaker : β → Cursor → Prop} {parser : Parser β}
    (ensures : Ensures parser cursor post)
    (implies : ∀ value reached, post value reached → weaker value reached) :
    Ensures parser cursor weaker :=
  fun value reached ran => implies value reached (ensures value reached ran)

theorem Gives.bind (second : ∀ value, Gives (next value) good) : Gives (parser >>= next) good :=
  fun _ => Ensures.bind (fun _ _ _ => trivial) fun value reached _ => second value reached

theorem Gives.pure {value : β} (holds : good value) : Gives (Pure.pure value) good :=
  fun _ => Ensures.pure holds

theorem Gives.fail : Gives (fail : Parser β) good :=
  fun _ => Ensures.fail

end

/-! ## Single tokens -/

section

variable {cursor : Cursor} {kind : TokenKind}

theorem ensures_position (cursor : Cursor) :
    Ensures position cursor fun _ reached => reached = cursor := by
  intro start reached ran
  cases cursor with
  | mk ahead behind => cases ahead <;> cases ran <;> rfl

theorem ensures_spanFrom (start : Nat) (cursor : Cursor) :
    Ensures (spanFrom start) cursor fun _ reached => reached = cursor := by
  intro span reached ran
  cases ran
  rfl

theorem ensures_peek (cursor : Cursor) :
    Ensures peek cursor fun kind reached => reached = cursor ∧
      (kind = .finish ∧ cursor.kinds = [] ∨ ∃ rest, cursor.kinds = kind :: rest) := by
  intro kind reached ran
  rcases cursor with ⟨_ | ⟨token, rest⟩, behind⟩ <;> cases ran
  · exact ⟨rfl, .inl ⟨rfl, rfl⟩⟩
  · exact ⟨rfl, .inr ⟨_, rfl⟩⟩

theorem ensures_advance {rest : List TokenKind} (spelled : cursor.kinds = kind :: rest) :
    Ensures advance cursor fun _ reached => reached.kinds = rest := by
  intro value reached ran
  rcases cursor with ⟨_ | ⟨token, ahead⟩, behind⟩
  · cases spelled
  · cases ran
    exact (List.cons.inj spelled).2

theorem ensures_take (proper : kind ≠ .finish) (cursor : Cursor) :
    Ensures (take? kind) cursor fun taken reached =>
      (taken = true ∧ cursor.kinds = kind :: reached.kinds) ∨
        (taken = false ∧ reached = cursor) := by
  refine (ensures_peek cursor).bind ?_
  rintro found reached ⟨rfl, ⟨ends, _⟩ | ⟨rest, spelled⟩⟩
  · rw [if_neg (ends ▸ proper.symm)]
    exact .pure (.inr ⟨rfl, rfl⟩)
  · split
    · rename_i same
      refine (ensures_advance spelled).bind fun _ left same' => .pure (.inl ⟨rfl, ?_⟩)
      rw [spelled, same, same']
    · exact .pure (.inr ⟨rfl, rfl⟩)

/-- The source ends where no token is left, too. -/
theorem ensures_finished (cursor : Cursor) :
    Ensures (expect .finish) cursor fun _ _ =>
      cursor.kinds = [] ∨ ∃ rest, cursor.kinds = .finish :: rest := by
  have taken : Ensures (take? .finish) cursor fun taken _ => taken = true →
      cursor.kinds = [] ∨ ∃ rest, cursor.kinds = .finish :: rest := by
    refine (ensures_peek cursor).bind ?_
    rintro kind _ ⟨rfl, ahead⟩
    split
    · rename_i same
      refine .skip fun _ _ => .pure fun _ => ?_
      rcases ahead with ⟨_, none⟩ | ⟨rest, spelled⟩
      · exact .inl none
      · exact .inr ⟨rest, same ▸ spelled⟩
    · exact .pure fun impossible => Bool.noConfusion impossible
  refine taken.bind fun found reached ended => ?_
  cases found with
  | true => exact .pure (ended rfl)
  | false => exact .fail

theorem ensures_expect (proper : kind ≠ .finish) (cursor : Cursor) :
    Ensures (expect kind) cursor fun _ reached => cursor.kinds = kind :: reached.kinds := by
  refine (ensures_take proper cursor).bind ?_
  rintro _ reached (⟨rfl, spelled⟩ | ⟨rfl, rfl⟩)
  · exact .pure spelled
  · exact .fail

theorem ensures_at (kind : TokenKind) (cursor : Cursor) :
    Ensures (at? kind) cursor fun _ reached => reached = cursor := by
  refine (ensures_peek cursor).bind ?_
  rintro found reached ⟨rfl, _⟩
  exact .pure rfl

theorem ensures_peekSecond (cursor : Cursor) :
    Ensures peekSecond cursor fun _ reached => reached = cursor := by
  intro kind reached ran
  rcases cursor with ⟨_ | ⟨first, _ | ⟨second, rest⟩⟩, behind⟩ <;> cases ran <;> rfl

theorem ensures_atSource (cursor : Cursor) :
    Ensures atSource cursor fun _ reached => reached = cursor := by
  refine (ensures_peek cursor).bind ?_
  rintro found reached ⟨rfl, _⟩
  split
  · exact .pure rfl
  · split
    · refine (ensures_peekSecond reached).bind ?_
      rintro second left rfl
      exact .pure rfl
    · exact .pure rfl

end

/-- A property that every round of a loop keeps holds of what the loop gives. -/
theorem ensures_extend {α : Type} {next : α → Parser (Option α)} (inv : α → Cursor → Prop)
    {post : α → Cursor → Prop} {value : α} {cursor : Cursor} (start : inv value cursor)
    (round : ∀ value cursor, inv value cursor →
      Ensures (next value) cursor fun found reached =>
        (∃ result, found = some result ∧ inv result reached) ∨ (found = none ∧ post value reached))
    (stop : ∀ value cursor, inv value cursor → post value cursor) :
    Ensures (extend next value) cursor post := by
  have bounded (fuel : Nat) : ∀ value cursor, inv value cursor →
      Ensures (extendWith next fuel value) cursor post := by
    induction fuel with
    | zero => exact fun value cursor holds => .pure (stop value cursor holds)
    | succ fuel ih =>
      intro value cursor holds
      refine (round value cursor holds).bind ?_
      rintro _ reached (⟨result, rfl, kept⟩ | ⟨rfl, ended⟩)
      · exact ih result reached kept
      · exact .pure ended
  refine (round value cursor start).bind ?_
  rintro _ reached (⟨result, rfl, kept⟩ | ⟨rfl, ended⟩)
  · exact bounded _ result reached kept
  · exact .pure ended

/-! ## Constructs that leave a node behind -/

section Refused

variable {sub : Ladder} {environment : Environment}

/-- A tree with a node that is not permitted on top. -/
abbrev Refused (environment : Environment) (tree : Tree) : Prop :=
  ¬tree.Allowed environment

theorem refused_unsupported (span : Span) (construct : Construct) (parts : List Tree) :
    Refused environment (.unsupported span construct parts) :=
  fun allowed => allowed _ .top

theorem refused_rejected (span : Span) (construct : Rejected) :
    Refused environment (.rejected span construct) :=
  fun allowed => allowed _ .top

theorem refused_literal (span : Span) : Refused environment (.literal span) :=
  fun allowed => allowed _ .top

theorem refused_slice (span : Span) (bounds : List Tree) :
    Refused environment (.slice span bounds) :=
  fun allowed => allowed _ .top

theorem gives_yieldExpression : Gives (yieldExpression sub) (Refused environment) := by
  refine .bind fun start => ?_
  refine .bind fun _ => ?_
  refine .bind fun delegates => ?_
  split
  · exact .bind fun value => .bind fun span => .pure (refused_unsupported _ _ _)
  · refine .bind fun kind => ?_
    split
    · exact .bind fun span => .pure (refused_unsupported _ _ _)
    · refine .bind fun valueStart => .bind fun first => .bind fun several => ?_
      split
      · exact .bind fun items => .bind fun span => .bind fun whole =>
          .pure (refused_unsupported _ _ _)
      · exact .bind fun span => .pure (refused_unsupported _ _ _)

theorem gives_quotations : Gives (quotations sub) (Refused environment) := by
  refine .bind fun start => .bind fun parts => .bind fun span => ?_
  split
  · exact .fail
  · split
    · exact .fail
    · dsimp only
      split
      · exact .pure (refused_literal _)
      · split
        · exact .bind fun fields => .pure (refused_unsupported _ _ _)
        · exact .fail

theorem gives_braced : Gives (braced sub) (Refused environment) := by
  refine .bind fun start => .bind fun _ => .bind fun empty => ?_
  split
  · exact .bind fun span => .pure (refused_unsupported _ _ _)
  · refine .bind fun mapping => ?_
    split
    · exact .bind fun first => .bind fun found => .bind fun _ => .bind fun span =>
        .pure (refused_unsupported _ _ _)
    · refine .bind fun starred => .bind fun first => .bind fun keyed => ?_
      split
      · refine .bind fun _ => .bind fun value => .bind fun comprehends => ?_
        split
        · exact .bind fun found => .bind fun _ => .bind fun span =>
            .pure (refused_unsupported _ _ _)
        · exact .bind fun found => .bind fun _ => .bind fun span =>
            .pure (refused_unsupported _ _ _)
      · refine .bind fun comprehends => ?_
        split
        · exact .bind fun found => .bind fun _ => .bind fun span =>
            .pure (refused_unsupported _ _ _)
        · exact .bind fun items => .bind fun _ => .bind fun span =>
            .pure (refused_unsupported _ _ _)

theorem gives_sliceFrom (start : Nat) (lower : List Tree) :
    Gives (sliceFrom sub start lower) (Refused environment) := by
  refine .bind fun _ => .bind fun upper => .bind fun stepped => ?_
  split
  · exact .bind fun step => .bind fun span => .pure (refused_slice _ _)
  · exact .bind fun step => .bind fun span => .pure (refused_slice _ _)

end Refused

/-! ## Levels -/

/-- If all nodes of a tree are permitted, it is derived at a level by the tokens in front of some
others. -/
def Derived (environment : Environment) (level : Level) (kinds : List TokenKind) (tree : Tree)
    (reached : Cursor) : Prop :=
  tree.Allowed environment → ∃ used, kinds = used ++ reached.kinds ∧ Derives level used tree

/-- What a parser takes for a tree with permitted nodes only derives the tree at a level. -/
def Sound (environment : Environment) (parser : Parser Tree) (level : Level) : Prop :=
  ∀ cursor, Ensures parser cursor (Derived environment level cursor.kinds)

section Levels

variable {environment : Environment} {sub : Ladder} {parser : Parser Tree} {level : Level}
  {kinds : List TokenKind} {tree : Tree} {cursor reached : Cursor}

theorem Derived.of_refused (refused : Refused environment tree) :
    Derived environment level kinds tree reached :=
  fun allowed => absurd allowed refused

theorem Derived.outward (loose : level.index < 16)
    (derived : Derived environment level.inner kinds tree reached) :
    Derived environment level kinds tree reached := by
  intro allowed
  rcases derived allowed with ⟨used, spelled, derives⟩
  exact ⟨used, spelled, derives.outward loose⟩

theorem Gives.sound (gives : Gives parser (Refused environment)) : Sound environment parser level :=
  fun cursor => (gives cursor).mono fun _ _ => .of_refused

theorem Sound.outward (level : Level) (loose : level.index < 16)
    (sound : Sound environment parser level.inner) : Sound environment parser level :=
  fun cursor => (sound cursor).mono fun _ _ => .outward loose

theorem operatorIn_eq_some {operators : List (String × BinaryOperator)} {kind : TokenKind}
    {operator : BinaryOperator} (found : operatorIn operators kind = some operator) :
    ∃ entry ∈ operators, kind = mark entry.1 ∧ entry.2 = operator := by
  rcases Option.map_eq_some_iff.mp found with ⟨entry, here, same⟩
  have spelled : mark entry.1 = kind := by simpa using List.find?_some here
  exact ⟨entry, List.mem_of_find?_eq_some here, spelled.symm, same⟩

/-- Operators that are evaluated are known by their marks. -/
theorem sound_leftChain {operators : List (String × BinaryOperator)} (loose : level.index < 16)
    (known : ∀ entry ∈ operators, entry.2 = .unsupported ∨ ∃ operation : Expr.Operation,
      mark entry.1 = .mark operation.symbol ∧ entry.2 = operation.operator ∧
        operation.level = level)
    (sound : Sound environment parser level.inner) :
    Sound environment (leftChain (operatorIn operators) parser) level := by
  intro cursor
  refine (ensures_position cursor).look fun start => ?_
  refine (sound.outward level loose cursor).bind fun first reached derived => ?_
  refine ensures_extend (Derived environment level cursor.kinds) derived ?_ fun _ _ => id
  intro left behind derived
  refine (ensures_peek behind).bind ?_
  rintro kind _ ⟨rfl, ahead⟩
  split
  · rename_i operator found
    rcases operatorIn_eq_some found with ⟨entry, member, rfl, rfl⟩
    rcases known entry member with foreign | ⟨operation, marked, evaluated, rfl⟩
    · exact .skip fun _ _ => .skip fun _ _ => .skip fun _ _ =>
        .pure (.inl ⟨_, rfl, .of_refused fun allowed => allowed _ .top foreign⟩)
    · rw [evaluated]
      obtain ⟨rest, spelled⟩ := ahead.resolve_left fun none => TokenKind.noConfusion none.1
      rw [marked] at spelled
      refine (ensures_advance spelled).bind fun _ middle left => ?_
      refine (sound middle).bind fun right last derivedRight => ?_
      refine (ensures_spanFrom start last).look fun span => .pure (.inl ⟨_, rfl, fun allowed => ?_⟩)
      rcases derived (allowed.child (.head _)) with ⟨used, before, first⟩
      rcases derivedRight (allowed.child (.tail _ (.head _))) with ⟨more, after, second⟩
      refine ⟨used ++ .mark operation.symbol :: more, ?_, .binary span operation first second⟩
      rw [before, spelled, ← left, after, List.append_assoc, List.cons_append]
  · exact .pure (.inr ⟨rfl, derived⟩)

theorem sound_logicalChain {operator : TokenKind} (proper : operator ≠ .finish)
    (loose : level.index < 16) (sound : Sound environment parser level.inner) :
    Sound environment (logicalChain operator parser) level := by
  intro cursor
  refine (ensures_position cursor).look fun start => ?_
  refine (sound.outward level loose cursor).bind fun first reached derived => ?_
  refine ensures_extend (Derived environment level cursor.kinds) derived ?_ fun _ _ => id
  intro left behind derived
  refine (ensures_take proper behind).bind ?_
  rintro _ middle (⟨rfl, _⟩ | ⟨rfl, rfl⟩)
  · exact .skip fun _ _ => .skip fun _ _ =>
      .pure (.inl ⟨_, rfl, .of_refused (refused_rejected _ _)⟩)
  · exact .pure (.inr ⟨rfl, derived⟩)

theorem sound_named (sound : Sound environment (sub .expression) .expression) :
    Sound environment (named sub) .named := by
  intro cursor
  refine (ensures_position cursor).look fun start => ?_
  have plain := sound.outward .named (by decide) cursor
  refine (ensures_peek cursor).bind ?_
  rintro kind _ ⟨rfl, _⟩
  split
  · refine (ensures_peekSecond _).look fun second => ?_
    split
    · exact .skip fun _ _ => .skip fun _ _ => .skip fun _ _ => .skip fun _ _ =>
        .pure (.of_refused (refused_rejected _ _))
    · exact plain
  · exact plain

theorem sound_expression (sound : Sound environment (sub .disjunction) .disjunction) :
    Sound environment (expression sub) .expression := by
  intro cursor
  refine (ensures_position cursor).look fun start => ?_
  refine (ensures_take (by decide) cursor).bind ?_
  rintro _ middle (⟨rfl, _⟩ | ⟨rfl, rfl⟩)
  · exact .skip fun _ _ => .skip fun _ _ => .skip fun _ _ => .skip fun _ _ =>
      .pure (.of_refused (refused_rejected _ _))
  · refine (sound.outward .expression (by decide) middle).bind fun tree reached derived => ?_
    refine (ensures_take (by decide) reached).bind ?_
    rintro _ last (⟨rfl, _⟩ | ⟨rfl, rfl⟩)
    · exact .skip fun _ _ => .skip fun _ _ => .skip fun _ _ => .skip fun _ _ =>
        .pure (.of_refused (refused_rejected _ _))
    · exact .pure derived

theorem sound_inversion (sound : Sound environment (sub .comparison) .comparison) :
    Sound environment (inversion sub) .inversion := by
  intro cursor
  refine (ensures_position cursor).look fun start => ?_
  refine (ensures_take (by decide) cursor).bind ?_
  rintro _ middle (⟨rfl, _⟩ | ⟨rfl, rfl⟩)
  · exact .skip fun _ _ => .skip fun _ _ =>
      .pure (.of_refused fun allowed => allowed _ .top rfl)
  · exact sound.outward .inversion (by decide) middle

theorem sound_power (sound : Sound environment (sub .awaited) .awaited) :
    Sound environment (power sub) .power := by
  intro cursor
  refine (ensures_position cursor).look fun start => ?_
  refine (sound.outward .power (by decide) cursor).bind fun base reached derived => ?_
  refine (ensures_take (by decide) reached).bind ?_
  rintro _ last (⟨rfl, _⟩ | ⟨rfl, rfl⟩)
  · exact .skip fun _ _ => .skip fun _ _ =>
      .pure (.of_refused fun allowed => allowed _ .top rfl)
  · exact .pure derived

theorem sound_awaited (sound : Sound environment (sub .primary) .primary) :
    Sound environment (awaited sub) .awaited := by
  intro cursor
  refine (ensures_position cursor).look fun start => ?_
  refine (ensures_take (by decide) cursor).bind ?_
  rintro _ middle (⟨rfl, _⟩ | ⟨rfl, rfl⟩)
  · exact .skip fun _ _ => .skip fun _ _ => .pure (.of_refused (refused_unsupported _ _ _))
  · exact sound.outward .awaited (by decide) middle

theorem sign_of_signOperator {kind : TokenKind} {operator : UnaryOperator}
    (found : signOperator kind = some operator) (known : operator ≠ .unsupported) :
    ∃ sign : Expr.Sign, kind = .mark sign.symbol ∧ operator = sign.operator := by
  unfold signOperator at found
  split at found
  case isTrue plus =>
    cases found
    exact ⟨.plus, plus, rfl⟩
  case isFalse =>
    split at found
    case isTrue minus =>
      cases found
      exact ⟨.minus, minus, rfl⟩
    case isFalse =>
      split at found
      · exact absurd (Option.some.inj found).symm known
      · cases found

theorem sound_factor (operand : Sound environment (sub .factor) .factor)
    (sound : Sound environment (sub .power) .power) :
    Sound environment (factor sub) .factor := by
  intro cursor
  refine (ensures_position cursor).look fun start => ?_
  refine (ensures_peek cursor).bind ?_
  rintro kind _ ⟨rfl, ahead⟩
  split
  · rename_i operator found
    by_cases foreign : operator = .unsupported
    · exact .skip fun _ _ => .skip fun _ _ => .skip fun _ _ =>
        .pure (.of_refused fun allowed => allowed _ .top foreign)
    · rcases sign_of_signOperator found foreign with ⟨sign, rfl, rfl⟩
      obtain ⟨rest, spelled⟩ := ahead.resolve_left fun none => TokenKind.noConfusion none.1
      refine (ensures_advance spelled).bind fun _ middle left => ?_
      refine (operand middle).bind fun tree last derived => ?_
      refine (ensures_spanFrom start last).look fun span => .pure fun allowed => ?_
      rcases derived (allowed.child (.head _)) with ⟨used, after, derives⟩
      refine ⟨.mark sign.symbol :: used, ?_, .unary span sign derives⟩
      rw [spelled, ← left, after, List.cons_append]
  · exact sound.outward .factor (by decide) _

theorem symbol_of_ofSymbol {symbol : Text} {comparator : Comparator}
    (found : Comparator.ofSymbol? symbol = some comparator) : comparator.symbol = symbol := by
  simpa using List.find?_some found

theorem ensures_comparisonOperator (cursor : Cursor) :
    Ensures comparisonOperator? cursor fun found reached =>
      (found = none ∧ reached = cursor) ∨ found = some none ∨ ∃ comparator,
        found = some (some comparator) ∧
          cursor.kinds = .mark (Comparator.symbol comparator) :: reached.kinds := by
  refine (ensures_peek cursor).bind ?_
  rintro kind _ ⟨rfl, ahead⟩
  split
  · rename_i symbol
    obtain ⟨rest, spelled⟩ := ahead.resolve_left fun none => TokenKind.noConfusion none.1
    split
    · rename_i comparator found
      refine (ensures_advance spelled).bind fun _ reached left => .pure (.inr (.inr ?_))
      refine ⟨comparator, rfl, ?_⟩
      rw [spelled, ← left, symbol_of_ofSymbol found]
    · exact .pure (.inl ⟨rfl, rfl⟩)
  · refine (ensures_take (by decide) _).bind ?_
    rintro _ middle (⟨rfl, _⟩ | ⟨rfl, rfl⟩)
    · exact .pure (.inr (.inl rfl))
    refine (ensures_take (by decide) _).bind ?_
    rintro _ last (⟨rfl, _⟩ | ⟨rfl, rfl⟩)
    · exact .skip fun _ _ => .pure (.inr (.inl rfl))
    refine (ensures_take (by decide) _).bind ?_
    rintro _ reached (⟨rfl, _⟩ | ⟨rfl, rfl⟩)
    · exact .skip fun _ _ => .pure (.inr (.inl rfl))
    · exact .pure (.inl ⟨rfl, rfl⟩)

/-- What the rounds of a comparison have found behind its first operand: nothing, an operator and an
operand, or something that is not permitted. -/
def Compared (environment : Environment) (ahead : Cursor)
    (found : List (Option Comparator) × List Tree) (reached : Cursor) : Prop :=
  (found = ([], []) ∧ reached = ahead) ∨
    (∃ comparator tree, found = ([some comparator], [tree]) ∧
      ∃ behind, ahead.kinds = .mark (Comparator.symbol comparator) :: behind ∧
        Derived environment .bitOr behind tree reached) ∨
    (found.2 ≠ [] ∧ ∀ comparator tree, found ≠ ([some comparator], [tree]))

theorem sound_comparison (sound : Sound environment (sub .bitOr) .bitOr) :
    Sound environment (comparison sub) .comparison := by
  intro cursor
  refine (ensures_position cursor).look fun start => ?_
  refine (sound cursor).bind fun first ahead derived => ?_
  refine (ensures_extend (Compared environment ahead) (.inl ⟨rfl, rfl⟩) ?_
    fun _ _ => id).bind ?_
  · rintro ⟨operators, others⟩ behind compared
    refine (ensures_comparisonOperator behind).bind ?_
    rintro _ middle (⟨rfl, rfl⟩ | rfl | ⟨comparator, rfl, spelled⟩)
    · exact .pure (.inr ⟨rfl, compared⟩)
    · exact .skip fun _ _ => .pure (.inl ⟨_, rfl, .inr (.inr ⟨List.cons_ne_nil _ _, by simp⟩)⟩)
    · refine (sound middle).bind fun right last derivedRight => .pure (.inl ⟨_, rfl, ?_⟩)
      rcases compared with ⟨none, rfl⟩ | ⟨_, _, one, _⟩ | ⟨several, _⟩
      · cases none
        exact .inr (.inl ⟨comparator, right, rfl, middle.kinds, spelled, derivedRight⟩)
      · cases one
        exact .inr (.inr ⟨List.cons_ne_nil _ _, by simp⟩)
      · exact .inr (.inr ⟨List.cons_ne_nil _ _, by simp_all⟩)
  · rintro ⟨operators, others⟩ reached (⟨none, rfl⟩ | ⟨comparator, right, one, behind, spelled,
      derivedRight⟩ | ⟨several, foreign⟩)
    · cases none
      exact .pure (derived.outward (by decide))
    · cases one
      refine (ensures_spanFrom start reached).look fun span => .pure fun allowed => ?_
      rcases derived (allowed.child (.head _)) with ⟨used, before, left⟩
      rcases derivedRight (allowed.child (.tail _ (.head _))) with ⟨more, after, right⟩
      refine ⟨used ++ .mark (Comparator.symbol comparator) :: more, ?_,
        .comparison span comparator left right⟩
      rw [before, spelled, after, List.append_assoc, List.cons_append]
    · have some : others.isEmpty = false := by simpa using several
      dsimp only
      rw [some]
      refine (ensures_spanFrom start reached).look fun span => .pure (.of_refused fun allowed => ?_)
      rcases allowed _ .top with ⟨comparator, right, operator, other⟩
      refine foreign comparator right ?_
      rw [List.reverse_eq_iff.mp operator, List.reverse_eq_iff.mp other]
      rfl

/-! ## Brackets -/

theorem ensures_starredItem (sound : Sound environment (sub .named) .named) :
    Sound environment (starredItem sub) .named := by
  intro cursor
  refine (ensures_position cursor).look fun start => ?_
  refine (ensures_take (by decide) cursor).bind ?_
  rintro _ middle (⟨rfl, _⟩ | ⟨rfl, rfl⟩)
  · exact .skip fun _ _ => .skip fun _ _ => .pure (.of_refused (refused_unsupported _ _ _))
  · exact sound middle

theorem sound_parenthesized (sound : Sound environment (sub .named) .named) :
    Sound environment (parenthesized sub) .atom := by
  intro cursor
  refine (ensures_position cursor).look fun start => ?_
  refine (ensures_expect (by decide) cursor).bind fun _ inside opened => ?_
  refine (ensures_take (by decide) inside).bind ?_
  rintro _ middle (⟨rfl, _⟩ | ⟨rfl, rfl⟩)
  · exact .skip fun _ _ => .pure (.of_refused (refused_unsupported _ _ _))
  refine (ensures_at _ middle).look fun yields => ?_
  split
  · have yielded : Gives (yieldExpression sub) (Refused environment) := gives_yieldExpression
    refine (yielded middle).bind fun value _ refused => ?_
    exact .skip fun _ _ => .pure (.of_refused refused)
  refine (ensures_at _ middle).look fun starred => ?_
  refine (ensures_starredItem sound middle).bind fun first behind derived => ?_
  refine (ensures_at _ behind).look fun several => ?_
  split
  · exact .skip fun _ _ => .skip fun _ _ => .skip fun _ _ =>
      .pure (.of_refused (refused_unsupported _ _ _))
  split
  · exact .fail
  refine (ensures_atSource behind).look fun comprehends => ?_
  split
  · exact .skip fun _ _ => .skip fun _ _ => .skip fun _ _ =>
      .pure (.of_refused (refused_unsupported _ _ _))
  refine (ensures_expect (by decide) behind).bind fun _ reached closed => .pure fun allowed => ?_
  rcases derived allowed with ⟨used, spelled, derives⟩
  refine ⟨mark "(" :: used ++ [mark ")"], ?_, .group derives⟩
  rw [opened, spelled, closed]
  simp

/-- If all items behind the first one are permitted, tokens derive them, with a comma in front of
each and perhaps one behind the last. -/
def Listed (environment : Environment) (kinds : List TokenKind) (trailing : Bool) (first : Tree)
    (items : List Tree) (reached : Cursor) : Prop :=
  ∃ others, items = first :: others ∧ ((∀ item ∈ others, item.Allowed environment) →
    ∃ derived : List (List TokenKind × Tree), others = derived.map Prod.snd ∧
      (∀ item ∈ derived, Derives .named item.1 item.2) ∧
      kinds = derived.flatMap (fun item => mark "," :: item.1) ++
        ((if trailing then [mark ","] else []) ++ reached.kinds))

theorem Listed.append {kinds used : List TokenKind} {first item : Tree} {items : List Tree}
    {middle last : Cursor} (listed : Listed environment kinds false first items middle)
    (separated : middle.kinds = mark "," :: used)
    (derived : Derived environment .named used item last) :
    Listed environment kinds false first (items ++ [item]) last := by
  rcases listed with ⟨others, rfl, listed⟩
  refine ⟨others ++ [item], rfl, fun allowed => ?_⟩
  rcases listed fun other member => allowed other (List.mem_append_left _ member) with
    ⟨front, rfl, each, before⟩
  rcases derived (allowed item (List.mem_append_right _ (List.mem_singleton_self item))) with
    ⟨more, rfl, derives⟩
  refine ⟨front ++ [(more, item)], by simp, ?_, ?_⟩
  · intro other member
    rcases List.mem_append.mp member with inside | last
    · exact each other inside
    · exact List.mem_singleton.mp last ▸ derives
  · simp [before, separated]

theorem ensures_moreItems (sound : Sound environment (sub .named) .named) (first : Tree)
    (cursor : Cursor) :
    Ensures (moreItems (starredItem sub) closes first) cursor fun items reached =>
      ∃ trailing, Listed environment cursor.kinds trailing first items reached := by
  rw [moreItems_eq]
  have looped : Ensures (extend (itemLink sub) [first]) cursor fun items reached =>
      ∃ trailing, Listed environment cursor.kinds trailing first items.reverse reached := by
    refine ensures_extend (fun items => Listed environment cursor.kinds false first items.reverse)
      ⟨[], rfl, fun _ => ⟨[], rfl, by simp, rfl⟩⟩ ?_ fun items behind listed => ⟨false, listed⟩
    intro items behind listed
    refine (ensures_take (by decide) behind).bind ?_
    rintro _ middle (⟨rfl, separated⟩ | ⟨rfl, rfl⟩)
    · refine (ensures_peek middle).bind ?_
      rintro kind _ ⟨rfl, _⟩
      split
      · refine .pure (.inr ⟨rfl, true, ?_⟩)
        rcases listed with ⟨others, same, listed⟩
        refine ⟨others, same, fun allowed => ?_⟩
        rcases listed allowed with ⟨derived, rfl, each, spelled⟩
        exact ⟨derived, rfl, each, by rw [spelled, separated]; rfl⟩
      · refine (ensures_starredItem sound _).bind fun item last derived => .pure (.inl ⟨_, rfl, ?_⟩)
        rw [List.reverse_cons]
        exact listed.append separated derived
    · exact .pure (.inr ⟨rfl, false, listed⟩)
  exact looped.bind fun items reached listed => .pure listed

theorem sound_bracketed (sound : Sound environment (sub .named) .named) :
    Sound environment (bracketed sub) .atom := by
  intro cursor
  refine (ensures_position cursor).look fun start => ?_
  refine (ensures_expect (by decide) cursor).bind fun _ inside opened => ?_
  refine (ensures_take (by decide) inside).bind ?_
  rintro _ middle (⟨rfl, closed⟩ | ⟨rfl, rfl⟩)
  · refine (ensures_spanFrom start middle).look fun span => .pure fun _ => ?_
    exact ⟨[mark "[", mark "]"], by rw [opened, closed]; rfl, .emptyList span⟩
  refine (ensures_at _ middle).look fun starred => ?_
  refine (ensures_starredItem sound middle).bind fun first behind derived => ?_
  have looks : Ensures (if starred then pure false else atSource) behind
      fun _ reached => reached = behind := by
    split
    · exact .pure rfl
    · exact ensures_atSource behind
  refine looks.look fun comprehends => ?_
  split
  · exact .skip fun _ _ => .skip fun _ _ => .skip fun _ _ =>
      .pure (.of_refused (refused_unsupported _ _ _))
  refine (ensures_moreItems sound first behind).bind ?_
  rintro items last ⟨trailing, others, rfl, listed⟩
  refine (ensures_expect (by decide) last).bind fun _ reached closed => ?_
  refine (ensures_spanFrom start reached).look fun span => .pure fun allowed => ?_
  rcases derived (allowed.child (.head _)) with ⟨used, before, derives⟩
  rcases listed fun item member => allowed.child (.tail _ member) with ⟨more, rfl, each, after⟩
  have whole : ∀ item ∈ (used, first) :: more, Derives .named item.1 item.2 :=
    List.forall_mem_cons.mpr ⟨derives, each⟩
  refine ⟨_, ?_, .list span whole trailing⟩
  rw [opened, before, after, closed]
  simp

theorem ensures_subscriptItem (sound : Sound environment (sub .named) .named) :
    Sound environment (subscriptItem sub) .named := by
  intro cursor
  refine (ensures_position cursor).look fun start => ?_
  refine (ensures_at _ cursor).look fun sliced => ?_
  split
  · exact (gives_sliceFrom start []).sound cursor
  refine (ensures_take (by decide) cursor).bind ?_
  rintro _ middle (⟨rfl, _⟩ | ⟨rfl, rfl⟩)
  · exact .skip fun _ _ => .skip fun _ _ => .pure (.of_refused (refused_unsupported _ _ _))
  refine (sound middle).bind fun value reached derived => ?_
  refine (ensures_at _ reached).look fun sliced => ?_
  split
  · exact (gives_sliceFrom start [value] reached).mono fun _ _ => .of_refused
  · exact .pure derived

theorem ensures_subscriptItems (sound : Sound environment (sub .named) .named) :
    Sound environment (subscriptItems sub) .named := by
  intro cursor
  refine (ensures_position cursor).look fun start => ?_
  refine (ensures_at _ cursor).look fun starred => ?_
  refine (ensures_subscriptItem sound cursor).bind fun first reached derived => ?_
  refine (ensures_at _ reached).look fun several => ?_
  split
  · exact .skip fun _ _ => .skip fun _ _ => .pure (.of_refused (refused_unsupported _ _ _))
  · exact .pure derived

theorem sound_primary (sound : Sound environment (sub .atom) .atom)
    (named : Sound environment (sub .named) .named) :
    Sound environment (primary sub) .primary := by
  intro cursor
  refine (ensures_position cursor).look fun start => ?_
  refine (sound.outward .primary (by decide) cursor).bind fun first reached derived => ?_
  refine ensures_extend (Derived environment .primary cursor.kinds) derived ?_ fun _ _ => id
  intro value behind derived
  refine (ensures_take (by decide) behind).bind ?_
  rintro _ middle (⟨rfl, pointed⟩ | ⟨rfl, rfl⟩)
  · refine (ensures_peek middle).bind ?_
    rintro kind _ ⟨rfl, ahead⟩
    split
    · rename_i spelling
      obtain ⟨rest, spelled⟩ := ahead.resolve_left fun none => TokenKind.noConfusion none.1
      refine (ensures_advance spelled).bind fun _ last left => ?_
      refine (ensures_spanFrom start last).look fun span => .pure (.inl ⟨_, rfl, fun allowed => ?_⟩)
      rcases derived (allowed.child (.head _)) with ⟨used, before, derives⟩
      refine ⟨used ++ [mark ".", .name spelling], ?_, .property span spelling derives⟩
      rw [before, pointed, spelled, left]
      simp
    · exact .fail
  refine (ensures_take (by decide) middle).bind ?_
  rintro _ inside (⟨rfl, _⟩ | ⟨rfl, rfl⟩)
  · exact .skip fun _ _ => .skip fun _ _ =>
      .pure (.inl ⟨_, rfl, .of_refused (refused_rejected _ _)⟩)
  refine (ensures_take (by decide) inside).bind ?_
  rintro _ within (⟨rfl, opened⟩ | ⟨rfl, rfl⟩)
  · refine (ensures_subscriptItems named within).bind fun index last derivedIndex => ?_
    refine (ensures_expect (by decide) last).bind fun _ left closed => ?_
    refine (ensures_spanFrom start left).look fun span => .pure (.inl ⟨_, rfl, fun allowed => ?_⟩)
    rcases derived (allowed.child (.head _)) with ⟨used, before, target⟩
    rcases derivedIndex (allowed.child (.tail _ (.head _))) with ⟨more, after, derives⟩
    refine ⟨used ++ (mark "[" :: more ++ [mark "]"]), ?_, .subscript span target derives⟩
    rw [before, opened, after, closed]
    simp
  · exact .pure (.inr ⟨rfl, derived⟩)

theorem ensures_single {kind : TokenKind} {rest : List TokenKind} {node : Span → Tree} (start : Nat)
    (spelled : cursor.kinds = kind :: rest) (derives : ∀ span, Derives .atom [kind] (node span)) :
    Ensures (do advance; return node (← spanFrom start)) cursor
      (Derived environment .atom cursor.kinds) := by
  refine (ensures_advance spelled).bind fun _ reached left => ?_
  refine (ensures_spanFrom start reached).look fun span => .pure fun _ => ?_
  exact ⟨[kind], by rw [spelled, left]; rfl, derives span⟩

theorem sound_atom (sound : Sound environment (sub .named) .named) :
    Sound environment (atom sub) .atom := by
  intro cursor
  have literal (start : Nat) : Ensures (do advance; return .literal (← spanFrom start)) cursor
      (Derived environment .atom cursor.kinds) :=
    .skip fun _ _ => .skip fun _ _ => .pure (.of_refused (refused_literal _))
  refine (ensures_position cursor).look fun start => ?_
  refine (ensures_peek cursor).bind ?_
  rintro kind _ ⟨rfl, ahead⟩
  split
  · obtain ⟨rest, spelled⟩ := ahead.resolve_left fun none => TokenKind.noConfusion none.1
    exact ensures_single start spelled (.name · _)
  · obtain ⟨rest, spelled⟩ := ahead.resolve_left fun none => TokenKind.noConfusion none.1
    exact ensures_single start spelled (.integer · _)
  · intro tree reached ran
    cases ran
  · obtain ⟨rest, spelled⟩ := ahead.resolve_left fun none => TokenKind.noConfusion none.1
    exact ensures_single start spelled (.double · _)
  · exact literal start
  · exact gives_quotations.sound _
  · split
    · exact literal start
    split
    · exact sound_parenthesized sound _
    split
    · exact sound_bracketed sound _
    split
    · exact gives_braced.sound _
    · exact .fail

/-! ## All levels -/

/-- Whatever the parser takes at a level for a tree with permitted nodes only derives that tree. -/
theorem sound_parse (environment : Environment) (fuel : Nat) (level : Level) :
    Sound environment (parse fuel level) level := by
  induction fuel generalizing level with
  | zero =>
    intro cursor tree reached ran
    cases ran
  | succ fuel ih =>
    cases level with
    | named => exact sound_named (ih .expression)
    | expression => exact sound_expression (ih .disjunction)
    | disjunction => exact sound_logicalChain (by decide) (by decide) (ih .conjunction)
    | conjunction => exact sound_logicalChain (by decide) (by decide) (ih .inversion)
    | inversion => exact sound_inversion (ih .comparison)
    | comparison => exact sound_comparison (ih .bitOr)
    | bitOr => exact sound_leftChain (by decide) (by simp) (ih .bitXor)
    | bitXor => exact sound_leftChain (by decide) (by simp) (ih .bitAnd)
    | bitAnd => exact sound_leftChain (by decide) (by simp) (ih .shift)
    | shift => exact sound_leftChain (by decide) (by simp) (ih .sum)
    | sum =>
      refine sound_leftChain (by decide) (fun entry member => ?_) (ih .term)
      fin_cases member
      · exact .inr ⟨.plus, rfl, rfl, rfl⟩
      · exact .inr ⟨.minus, rfl, rfl, rfl⟩
    | term =>
      refine sound_leftChain (by decide) (fun entry member => ?_) (ih .factor)
      fin_cases member
      · exact .inr ⟨.times, rfl, rfl, rfl⟩
      · exact .inr ⟨.over, rfl, rfl, rfl⟩
      · exact .inr ⟨.modulo, rfl, rfl, rfl⟩
      · exact .inl rfl
      · exact .inl rfl
    | factor => exact sound_factor (ih .factor) (ih .power)
    | power => exact sound_power (ih .awaited)
    | awaited => exact sound_awaited (ih .primary)
    | primary => exact sound_primary (ih .atom) (ih .named)
    | atom => exact sound_atom (ih .named)

/-- On one line, nothing but the end of the source can stand behind an expression. -/
theorem ensures_finish (oneLine : TokenKind.newline ∉ kinds)
    (derived : Derived environment .expression kinds tree cursor) :
    Ensures (do
      let _ ← extend (fun _ => do if ← take? .newline then return some () else return none) ()
      expect .finish
      return tree) cursor fun found _ => found.Allowed environment → ∃ used rest,
        kinds = used ++ rest ∧ (rest = [] ∨ ∃ more, rest = .finish :: more) ∧
          Derives .expression used found := by
  have looped : Ensures (extend (fun _ => do
      if ← take? .newline then return some () else return none) ()) cursor
      fun _ reached => Derived environment .expression kinds tree reached := by
    refine ensures_extend (fun _ reached => Derived environment .expression kinds tree reached)
      derived ?_ fun _ _ => id
    intro _ behind derived
    refine (ensures_take (by decide) behind).bind ?_
    rintro _ middle (⟨rfl, ended⟩ | ⟨rfl, rfl⟩)
    · refine .pure (.inl ⟨_, rfl, fun allowed => ?_⟩)
      rcases derived allowed with ⟨used, spelled, _⟩
      exact absurd (by simp [spelled, ended]) oneLine
    · exact .pure (.inr ⟨rfl, derived⟩)
  refine looped.bind fun _ reached derived => ?_
  refine (ensures_finished reached).bind fun _ last finished => .pure fun allowed => ?_
  rcases derived allowed with ⟨used, spelled, derives⟩
  exact ⟨used, _, spelled, finished, derives⟩

/-- On one line, the tokens of a whole source derive its tree, and behind them the source ends. -/
theorem ensures_whole (sound : Sound environment (sub .expression) .expression)
    (oneLine : TokenKind.newline ∉ cursor.kinds) :
    Ensures (whole sub) cursor fun tree _ => tree.Allowed environment → ∃ used rest,
      cursor.kinds = used ++ rest ∧ (rest = [] ∨ ∃ more, rest = .finish :: more) ∧
        Derives .expression used tree := by
  refine (ensures_position cursor).look fun start => ?_
  refine (sound cursor).bind fun first middle derived => ?_
  refine (ensures_at _ middle).look fun several => ?_
  split
  · refine .skip fun _ behind => .skip fun _ last => ?_
    refine (ensures_pure _ last).bind ?_
    rintro _ _ ⟨rfl, rfl⟩
    exact ensures_finish oneLine (.of_refused (refused_unsupported _ _ _))
  · refine (ensures_pure _ middle).bind ?_
    rintro _ _ ⟨rfl, rfl⟩
    exact ensures_finish oneLine derived

end Levels

end Parser

end StepScript

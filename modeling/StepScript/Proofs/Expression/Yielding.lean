import StepScript.Proofs.Expression.Lexing

/-!
# What a parser yields

A parser is described by the tokens in front of it, the tokens that it leaves, and what holds of the
value that it gives.  Such descriptions are put together in the way in which parsers are.
-/

namespace StepScript.Parser

/-- In front of some tokens, a parser gives a value with a property and leaves other tokens. -/
def Yields {α : Type} (parser : Parser α) (ahead rest : List Token) (good : α → Prop) : Prop :=
  ∀ behind, ∃ value stop, parser ⟨ahead, behind⟩ = .ok (value, ⟨rest, stop⟩) ∧ good value

namespace Yields

variable {α β : Type} {parser : Parser α} {next : α → Parser β} {ahead middle rest : List Token}
  {good better : α → Prop} {fine : β → Prop}

theorem mono (yields : Yields parser ahead rest good)
    (weaker : ∀ value, good value → better value) :
    Yields parser ahead rest better := by
  intro behind
  rcases yields behind with ⟨value, stop, ran, holds⟩
  exact ⟨value, stop, ran, weaker value holds⟩

theorem pure {value : α} (holds : good value) : Yields (Pure.pure value) ahead ahead good :=
  fun behind => ⟨value, behind, rfl, holds⟩

theorem bind (first : Yields parser ahead middle good)
    (second : ∀ value, good value → Yields (next value) middle rest fine) :
    Yields (parser >>= next) ahead rest fine := by
  intro behind
  rcases first behind with ⟨value, stop, ran, holds⟩
  rcases second value holds stop with ⟨result, last, reran, finer⟩
  refine ⟨result, last, ?_, finer⟩
  change (parser ⟨ahead, behind⟩ >>= fun reached => next reached.1 reached.2) = _
  rw [ran]
  exact reran

end Yields

variable {token : Token} {rest : List Token} {kind : TokenKind}

theorem yields_peek : Yields peek (token :: rest) (token :: rest) (· = token.kind) :=
  fun behind => ⟨token.kind, behind, rfl, rfl⟩

theorem yields_peekSecond {first : Token} :
    Yields peekSecond (first :: token :: rest) (first :: token :: rest) (· = token.kind) :=
  fun behind => ⟨token.kind, behind, rfl, rfl⟩

theorem yields_position (ahead : List Token) : Yields position ahead ahead fun _ => True := by
  intro behind
  cases ahead with
  | nil => exact ⟨_, behind, rfl, trivial⟩
  | cons token rest => exact ⟨_, behind, rfl, trivial⟩

theorem yields_spanFrom (start : Nat) (ahead : List Token) :
    Yields (spanFrom start) ahead ahead fun _ => True :=
  fun behind => ⟨_, behind, rfl, trivial⟩

theorem yields_advance : Yields advance (token :: rest) rest fun _ => True :=
  fun _ => ⟨(), _, rfl, trivial⟩

theorem yields_take (same : token.kind = kind) :
    Yields (take? kind) (token :: rest) rest (· = true) := by
  refine yields_peek.bind ?_
  rintro found rfl
  rw [if_pos same]
  exact yields_advance.bind fun _ _ => .pure rfl

theorem yields_pass (other : token.kind ≠ kind) :
    Yields (take? kind) (token :: rest) (token :: rest) (· = false) := by
  refine yields_peek.bind ?_
  rintro found rfl
  rw [if_neg other]
  exact .pure rfl

section

variable {α : Type} {yes no : Parser α} {left : List Token} {good : α → Prop}

/-- A token that is taken decides how a parser goes on. -/
theorem yields_taken (same : token.kind = kind) (goesOn : Yields yes rest left good) :
    Yields (do if ← take? kind then yes else no) (token :: rest) left good := by
  refine (yields_take same).bind ?_
  rintro found rfl
  exact goesOn

/-- So does a token that is not there. -/
theorem yields_missed (other : token.kind ≠ kind) (goesOn : Yields no (token :: rest) left good) :
    Yields (do if ← take? kind then yes else no) (token :: rest) left good := by
  refine (yields_pass other).bind ?_
  rintro found rfl
  exact goesOn

end

theorem yields_expect (same : token.kind = kind) :
    Yields (expect kind) (token :: rest) rest fun _ => True := by
  refine (yields_take same).bind ?_
  rintro found rfl
  exact .pure trivial

theorem yields_at (answer : Bool) (same : decide (token.kind = kind) = answer) :
    Yields (at? kind) (token :: rest) (token :: rest) (· = answer) := by
  refine yields_peek.bind ?_
  rintro found rfl
  exact .pure same

/-! ## Going on with a value -/

section

variable {α : Type} {next : α → Parser (Option α)} {good better : α → Prop}
  {ahead middle rest : List Token} {value : α}

/-- One round of a loop goes on with another value, and reads a token. -/
def Round (next : α → Parser (Option α)) (before after : α × Cursor) : Prop :=
  next before.1 before.2 = .ok (some after.1, after.2) ∧
    after.2.ahead.length < before.2.ahead.length

/-- A loop runs from a value to one with a property, in front of some tokens and of what it leaves
of them. -/
def Rounds (next : α → Parser (Option α)) (value : α) (ahead rest : List Token) (good : α → Prop) :
    Prop :=
  ∀ behind, ∃ result stop, Relation.ReflTransGen (Round next) (value, ⟨ahead, behind⟩)
    (result, ⟨rest, stop⟩) ∧ good result

theorem Rounds.refl (holds : good value) : Rounds next value ahead ahead good :=
  fun behind => ⟨value, behind, .refl, holds⟩

theorem Rounds.mono (rounds : Rounds next value ahead rest good)
    (weaker : ∀ value, good value → better value) : Rounds next value ahead rest better := by
  intro behind
  rcases rounds behind with ⟨result, stop, path, holds⟩
  exact ⟨result, stop, path, weaker result holds⟩

theorem Rounds.tail (rounds : Rounds next value ahead middle good)
    (last : ∀ value, good value → Yields (next value) middle rest fun found =>
      ∃ result, found = some result ∧ better result)
    (shorter : rest.length < middle.length) : Rounds next value ahead rest better := by
  intro behind
  rcases rounds behind with ⟨between, stop, path, holds⟩
  rcases last between holds stop with ⟨_, final, ran, result, rfl, finer⟩
  exact ⟨result, final, path.tail ⟨ran, shorter⟩, finer⟩

theorem Rounds.head (first : Yields (next value) ahead middle fun found =>
      ∃ result, found = some result ∧ better result)
    (shorter : middle.length < ahead.length)
    (others : ∀ value, better value → Rounds next value middle rest good) :
    Rounds next value ahead rest good := by
  intro behind
  rcases first behind with ⟨_, stop, ran, between, rfl, finer⟩
  rcases others between finer stop with ⟨result, final, path, holds⟩
  exact ⟨result, final, .head ⟨ran, shorter⟩ path, holds⟩

/-- A bounded loop comes to its end if there are as many rounds left as tokens.  The attempt that
ends it may read something. -/
theorem extendWith_of_rounds {before after : α × Cursor} {last : Cursor}
    (path : Relation.ReflTransGen (Round next) before after)
    (ends : next after.1 after.2 = .ok (none, last))
    (fewer : last.ahead.length ≤ after.2.ahead.length) (fuel : Nat)
    (enough : before.2.ahead.length ≤ fuel) :
    ∃ cursor, extendWith next fuel before.1 before.2 = .ok (after.1, cursor) ∧
      cursor.ahead = last.ahead := by
  induction path using Relation.ReflTransGen.head_induction_on generalizing fuel with
  | refl =>
    cases fuel with
    | zero =>
      have none : after.2.ahead = [] := List.length_eq_zero_iff.mp (by omega)
      have left : last.ahead = [] := List.length_eq_zero_iff.mp (by simpa [none] using fewer)
      exact ⟨after.2, rfl, none.trans left.symm⟩
    | succ fuel =>
      refine ⟨last, ?_, rfl⟩
      change (next after.1 after.2 >>= _) = _
      rw [ends]
      rfl
  | @head before between round _ ih =>
    cases fuel with
    | zero => exact absurd round.2 (by omega)
    | succ fuel =>
      have fits : between.2.ahead.length ≤ fuel := by
        have shorter := round.2
        omega
      rcases ih fuel fits with ⟨cursor, ran, left⟩
      refine ⟨cursor, ?_, left⟩
      change (next before.1 before.2 >>= _) = _
      rw [round.1]
      exact ran

/-- A loop gives the value that its rounds lead to, if what comes then is no further round. -/
theorem Rounds.yields_last (rounds : Rounds next value ahead middle good)
    (ends : ∀ value, Yields (next value) middle rest (· = none))
    (fewer : rest.length ≤ middle.length) :
    Yields (extend next value) ahead rest good := by
  intro behind
  rcases rounds behind with ⟨result, stop, path, holds⟩
  rcases ends result stop with ⟨_, last, ended, rfl⟩
  rcases Relation.ReflTransGen.cases_head path with same | ⟨between, round, path⟩
  · cases same
    refine ⟨value, last, ?_, holds⟩
    change (next value ⟨ahead, behind⟩ >>= _) = _
    rw [ended]
    rfl
  · rcases extendWith_of_rounds path ended fewer _ le_rfl with ⟨⟨ahead', last⟩, ran, left⟩
    cases left
    refine ⟨result, last, ?_, holds⟩
    change (next value ⟨ahead, behind⟩ >>= _) = _
    rw [round.1]
    exact ran

theorem Rounds.yields (rounds : Rounds next value ahead rest good)
    (ends : ∀ value, Yields (next value) rest rest (· = none)) :
    Yields (extend next value) ahead rest good :=
  rounds.yields_last ends le_rfl

/-- A loop with one round gives the value of that round. -/
theorem yields_extend_once (good : α → Prop)
    (round : Yields (next value) ahead rest fun found =>
      ∃ result, found = some result ∧ good result)
    (shorter : rest.length < ahead.length)
    (ends : ∀ value, Yields (next value) rest rest (· = none)) :
    Yields (extend next value) ahead rest good :=
  Rounds.yields (.head round shorter fun _ => .refl) ends

/-- A loop without a round keeps its value. -/
theorem yields_extend_none (ends : ∀ value, Yields (next value) rest rest (· = none)) :
    Yields (extend next value) rest rest (· = value) :=
  Rounds.yields (Rounds.refl rfl) ends

end

end StepScript.Parser

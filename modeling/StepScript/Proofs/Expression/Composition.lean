import StepScript.Proofs.Expression.Enclosure
import StepScript.Proofs.Expression.Soundness

/-!
# Expressions put together from texts

A text that is read as an expression by itself is a row of tokens (`row_of_parseExpression`), so it
is read as the same expression inside of brackets.  What is put together from such texts has the
value that the trees put together have (`Spells.agrees`).
-/

namespace StepScript

open StepScript.Lexer StepScript.Parser StepScript.Expr

/-- A text is read, wherever an ender follows it, as tokens that derive a tree at a level.  Brackets
are nested no deeper in it than told. -/
def Spells (level : Level) (deep : Nat) (text : Text) (tree : Tree) : Prop :=
  ∃ kinds, Scans (nesting kinds) (Before enders) text kinds ∧ Derives level kinds tree ∧
    nesting kinds ≤ deep

namespace Spells

variable {level : Level} {deep : Nat} {text other : Text} {tree hidden : Tree}

theorem of_row {kinds : List TokenKind} {final : List Char} (row : Row [] text kinds final)
    (derives : Derives level kinds tree) (bound : nesting kinds ≤ deep) :
    Spells level deep text tree :=
  ⟨kinds, row.scans derives.plain derives.balanced, derives, bound⟩

theorem mono (spells : Spells level deep text tree) {loose : Level} {more : Nat}
    (below : loose.index ≤ level.index) (fits : deep ≤ more) : Spells loose more text tree := by
  rcases spells with ⟨kinds, scans, derives, bound⟩
  exact ⟨kinds, scans, derives.loosen below, bound.trans fits⟩

theorem before_ender {char : Char} (known : char ∈ enders) (rest : Text) :
    Before enders (char :: rest) :=
  before_cons.mpr known

theorem group (inside : Spells .named deep text tree) :
    Spells .atom (deep + 1) ('(' :: text ++ [')']) tree := by
  rcases inside with ⟨kinds, scans, derives, bound⟩
  have nested : nesting (mark "(" :: kinds ++ [mark ")"]) = nesting kinds + 1 :=
    derives.balanced.nesting_bracketed rfl ⟨rfl, rfl⟩
  refine ⟨_, ?_, .group derives, nested ▸ Nat.succ_le_succ bound⟩
  rw [nested]
  exact (scans.bracketed (by decide) (before_ender (by decide))).mono le_rfl fun _ _ => trivial

theorem name (identifier : Identifier) :
    Spells .atom 0 identifier.text (.name default identifier.text) := by
  have found : lexeme identifier.first identifier.text =
      .token (.name identifier.text) identifier.text.length := by
    simpa using lexeme_identifier identifier (before_nil _)
  have plain := plain_of_isWord (Identifier.isWord_of_mem identifier.first_mem)
  have derives : Derives .atom [.name identifier.text]
      (.name default (Text.normalForm identifier.text)) := .name default identifier.text
  rw [Text.normalForm_of_ascii fun _ => Identifier.toNat_lt_of_mem] at derives
  exact ⟨[.name identifier.text], scans_of_lexeme plain.1 plain.2.1 plain.2.2 found rfl, derives,
    le_rfl⟩

theorem cell (identifier : Identifier) (inside : Spells .named deep text tree) :
    Spells .primary (deep + 1) (identifier.text ++ '[' :: text ++ [']'])
      (.subscript default (.name default identifier.text) tree) := by
  rcases inside with ⟨kinds, scans, derives, bound⟩
  have nested : nesting (mark "[" :: kinds ++ [mark "]"]) = nesting kinds + 1 :=
    derives.balanced.nesting_bracketed rfl ⟨rfl, rfl⟩
  have target : Derives .primary [.name identifier.text]
      (.name default (Text.normalForm identifier.text)) :=
    (Derives.name default identifier.text).loosen (by decide)
  rw [Text.normalForm_of_ascii fun _ => Identifier.toNat_lt_of_mem] at target
  have whole : nesting ([.name identifier.text] ++ (mark "[" :: kinds ++ [mark "]"])) =
      nesting kinds + 1 := by
    rw [target.balanced.nesting_append, nested]
    exact Nat.zero_max _
  have place : Scans (nesting kinds + 1) (fun _ => True) ('[' :: text ++ [']'])
      (mark "[" :: kinds ++ [mark "]"]) :=
    scans.bracketed (by decide) (before_ender (by decide))
  have front : Scans (nesting kinds + 1) (Before (delimiters ++ continuations)) identifier.text
      [.name identifier.text] := by
    simpa [kindsOf, Piece.kind?, Piece.text] using (lexes_identifier _ identifier).scans
  refine ⟨_, ?_, .subscript default target derives, whole ▸ Nat.succ_le_succ bound⟩
  rw [whole, List.append_assoc]
  exact (front.append place fun rest _ => before_cons.mpr (by decide)).mono le_rfl
    fun _ _ => trivial

/-- An operand behind a sign. -/
theorem unary (sign : Sign) {first : Char} {rest : Text} (apart : first ≠ '=' ∧ first ≠ '>')
    (operand : Spells .factor deep (first :: rest) tree) :
    Spells .factor deep (sign.symbol ++ first :: rest) (.unary default sign.operator tree) := by
  rcases operand with ⟨kinds, scans, derives, bound⟩
  have nested : nesting (.mark sign.symbol :: kinds) = nesting kinds :=
    Balanced.nesting_cons (openBehind_sign sign) kinds
  refine ⟨_, ?_, .unary default sign derives, nested ▸ bound⟩
  rw [nested]
  exact (scans_sign _ sign).append scans fun _ _ => ⟨first, _, rfl, apart⟩

theorem binary (operation : Operation) (left : Spells operation.level deep text tree)
    (right : Spells operation.level.inner deep other hidden) :
    Spells operation.level deep (text ++ ' ' :: (operation.symbol ++ ' ' :: other))
      (.binary default operation.operator tree hidden) := by
  rcases left with ⟨kinds, scans, derives, bound⟩
  rcases right with ⟨others, scansRight, derivesRight, boundRight⟩
  have nested := derives.balanced.nesting_append (.mark operation.symbol :: others)
  rw [Balanced.nesting_cons (openBehind_operation operation)] at nested
  refine ⟨_, ?_, .binary default operation derives derivesRight, ?_⟩
  · rw [nested]
    have operator : Scans (max (nesting kinds) (nesting others)) (fun _ => True)
        (' ' :: operation.symbol ++ [' ']) [.mark operation.symbol] := by
      have spelled := (lexes_spaced (max (nesting kinds) (nesting others))
        operation.symbol_mem).scans
      rw [show kindsOf (spaced operation.symbol) = [.mark operation.symbol] from rfl] at spelled
      simpa [spaced, Piece.text] using spelled
    have front := (scans.mono (Nat.le_max_left _ _) fun _ => id).append operator
      fun rest _ => show Before enders (' ' :: _) from before_ender (by decide) _
    have back := scansRight.mono (Nat.le_max_right (nesting kinds) _) fun _ => id
    simpa using front.append back fun _ _ => trivial
  · rw [nested]
    exact max_le bound boundRight

/-- What a text spells is read as the tree, except for the places of the nodes. -/
theorem exists_parseExpression (spells : Spells .expression deep text tree)
    (few : deep ≤ bracketLimit) (visible : ∀ char ∈ text.head?, char ∉ separators)
    (plain : '\x00' ∉ text) (shallow : tree.depth ≤ constructionLimit) :
    ∃ found, parseExpression text = .ok found ∧ found.bare = tree.bare := by
  rcases spells with ⟨kinds, scans, derives, bound⟩
  have affordable : Derives.cost kinds tree ≤ callLimit + Level.expression.index := by
    simp only [Derives.cost, callLimit, bracketLimit, constructionLimit, Level.index]
      at few shallow ⊢
    omega
  have reads := derives.parsed.reads .expression le_rfl callLimit affordable
  refine parseExpression_of_reads scans (before_nil _) (bound.trans few) visible plain reads
    fun found same => ?_
  rwa [← Tree.depth_bare, same, Tree.depth_bare]

theorem checkTree_eq_ok {kinds : List TokenKind} (derives : Derives level kinds tree)
    {found : Tree} (same : found.bare = tree.bare) (source : Text) :
    checkTree source found = .ok () := by
  let Good (tree : Tree) : Prop := ∃ level kinds, Derives level kinds tree
  have none : Tree.findRejected? (found.depth + 1) [tree] = none :=
    Tree.findRejected?_eq_none Good (fun _ ⟨_, _, derives⟩ => derives.rejected?_eq_none)
      (fun _ _ ⟨_, _, derives⟩ member => derives.children member) _
      (List.forall_mem_singleton.mpr ⟨level, kinds, derives⟩)
  rw [← Tree.findRejected?_bare, List.map_singleton, ← same, ← List.map_singleton,
    Tree.findRejected?_bare] at none
  rw [checkTree, none]

/-- What a text spells has the value of the tree. -/
theorem agrees (spells : Spells .expression deep text tree) (few : deep ≤ bracketLimit)
    (visible : ∀ char ∈ text.head?, char ∉ separators) (stripped : stripStatement text = text)
    (spoken : text ≠ []) (plain : '\x00' ∉ text) (shallow : tree.depth ≤ nestingLimit)
    (environment : Environment) :
    Agrees (evaluateText text environment) (tree.value? environment) := by
  rcases spells.exists_parseExpression few visible plain (shallow.trans (by decide)) with
    ⟨found, read, same⟩
  rcases spells with ⟨kinds, scans, derives, bound⟩
  have evaluated : evaluateText text environment =
      found.evaluate environment text nestingLimit := by
    simp only [evaluateText, stripped, List.isEmpty_iff, spoken, read, if_false]
    change (checkTree text found >>= fun _ => _) = _
    rw [checkTree_eq_ok derives same]
    rfl
  rw [evaluated]
  exact Tree.agrees_value? same shallow

/-- The value of a text that is read is the value of what it spells. -/
theorem evaluate_eq (spells : Spells .expression deep text tree) (few : deep ≤ bracketLimit)
    (visible : ∀ char ∈ text.head?, char ∉ separators) (plain : '\x00' ∉ text)
    (shallow : tree.depth ≤ constructionLimit) {found : Tree} {environment : Environment}
    {room : Nat} {value : Value} (read : parseExpression text = .ok found)
    (evaluated : found.evaluate environment text room = .ok value) :
    tree.evaluate environment [] room = .ok value := by
  rcases spells.exists_parseExpression few visible plain shallow with ⟨other, readToo, same⟩
  cases read.symm.trans readToo
  have agrees := Tree.evaluate_congr environment text [] same room
  rw [evaluated] at agrees
  cases outcome : tree.evaluate environment [] room with
  | ok other =>
    rw [outcome] at agrees
    exact agrees.symm
  | error cause =>
    rw [outcome] at agrees
    rcases agrees with ⟨fault, refused, -⟩
    cases refused

end Spells

/-! ## Lists -/

/-- Blanks that may stand anywhere between tokens. -/
def IsGap (gap : Text) : Prop :=
  ∀ char ∈ gap, char = ' ' ∨ char = '\t'

theorem IsGap.scans {gap : Text} (hidden : IsGap gap) (room : Nat) :
    Scans room (fun _ => True) gap [] := by
  induction gap with
  | nil => exact .nil room _
  | cons char gap ih =>
    intro fuel offset stack rest _ enough free
    cases fuel with
    | zero => exact absurd enough (Nat.not_lt_zero _)
    | succ fuel =>
      rw [List.cons_append, List.length_cons, Nat.add_lt_add_iff_right] at enough
      have blank : char ∈ Lexer.blanks := by
        rcases hidden char List.mem_cons_self with rfl | rfl <;> decide
      rcases ih (fun other member => hidden other (List.mem_cons_of_mem _ member)) fuel (offset + 1)
        stack rest trivial enough free with ⟨tokens, left, spelled, enough, scanned⟩
      refine ⟨tokens, left, spelled, enough, ?_⟩
      rw [List.cons_append, scanFrom_hidden blank, scanned, List.length_cons, Nat.add_assoc,
        Nat.add_comm 1]

/-- A gap in front of an ender lengthens no token either. -/
theorem IsGap.before_enders {gap rest : Text} (hidden : IsGap gap) (before : Before enders rest) :
    Before enders (gap ++ rest) := by
  cases gap with
  | nil => exact before
  | cons char gap =>
    rcases hidden char List.mem_cons_self with rfl | rfl <;>
      exact Spells.before_ender (by decide) _

/-- A text spells the items of a list, with commas between them and blanks around the commas. -/
inductive SpellsItems (deep : Nat) : Text → List Tree → Prop where
  | last {text gap : Text} {tree : Tree} (item : Spells .named deep text tree)
    (hidden : IsGap gap) :
    SpellsItems deep (text ++ gap) [tree]
  | more {text gap inner rest : Text} {tree : Tree} {trees : List Tree}
    (item : Spells .named deep text tree) (hidden : IsGap gap) (hiddenInner : IsGap inner)
    (others : SpellsItems deep rest trees) :
    SpellsItems deep (text ++ (gap ++ ',' :: (inner ++ rest))) (tree :: trees)

def itemKinds (item : List TokenKind × Tree) (others : List (List TokenKind × Tree)) :
    List TokenKind :=
  item.1 ++ others.flatMap fun other => mark "," :: other.1

theorem SpellsItems.exists_kinds {deep : Nat} {text : Text} {trees : List Tree}
    (items : SpellsItems deep text trees) :
    ∃ item others, trees = item.2 :: others.map Prod.snd ∧
      (∀ other ∈ item :: others, Derives .named other.1 other.2) ∧
      Scans (nesting (itemKinds item others)) (Before enders) text (itemKinds item others) ∧
      nesting (itemKinds item others) ≤ deep := by
  induction items with
  | last item hidden =>
    rcases item with ⟨kinds, scans, derives, bound⟩
    refine ⟨(kinds, _), [], rfl, List.forall_mem_singleton.mpr derives, ?_, ?_⟩
    · simpa [itemKinds] using
        scans.append ((hidden.scans (nesting kinds)).mono le_rfl fun _ _ => trivial)
          fun rest before => hidden.before_enders before
    · simpa [itemKinds] using bound
  | more item hidden hiddenInner others ih =>
    rcases item with ⟨kinds, scans, derives, bound⟩
    rcases ih with ⟨next, further, rfl, each, scansMore, boundMore⟩
    have nested : nesting (kinds ++ (mark "," :: itemKinds next further)) =
        max (nesting kinds) (nesting (itemKinds next further)) := by
      rw [derives.balanced.nesting_append, Balanced.nesting_cons fun _ => rfl]
    refine ⟨(kinds, _), next :: further, rfl, List.forall_mem_cons.mpr ⟨derives, each⟩, ?_, ?_⟩
    · change Scans (nesting (kinds ++ (mark "," :: itemKinds next further))) _ _
        (kinds ++ (mark "," :: itemKinds next further))
      rw [nested]
      have behind := (Scans.comma (max (nesting kinds) (nesting (itemKinds next further)))).append
        (hiddenInner.scans _) fun _ _ => trivial
      have back := behind.append (scansMore.mono (Nat.le_max_right (nesting kinds) _) fun _ => id)
        fun _ _ => trivial
      have separated := (hidden.scans _).append back fun _ _ => trivial
      have front := scans.mono (Nat.le_max_left _ (nesting (itemKinds next further))) fun _ => id
      simpa [mark] using front.append separated fun rest _ => by
        rw [List.append_assoc]
        exact hidden.before_enders (Spells.before_ender (by decide) _)
    · change nesting (kinds ++ (mark "," :: itemKinds next further)) ≤ deep
      rw [nested]
      exact max_le bound boundMore

namespace Spells

variable {deep : Nat} {gap inner : Text} {trees : List Tree}

theorem emptyList (hidden : IsGap gap) :
    Spells .atom 1 ('[' :: gap ++ [']']) (.list default []) := by
  have scans : Scans 1 (fun _ => True) ('[' :: gap ++ [']']) [mark "[", mark "]"] :=
    (hidden.scans 0).bracketed (by decide) fun _ => trivial
  exact ⟨_, scans.mono le_rfl fun _ _ => trivial, .emptyList default, by decide⟩

theorem list (hidden : IsGap gap) (items : SpellsItems deep inner trees) :
    Spells .atom (deep + 1) ('[' :: (gap ++ inner) ++ [']']) (.list default trees) := by
  rcases items.exists_kinds with ⟨item, others, rfl, each, scans, bound⟩
  have derives : Derives .atom (mark "[" :: itemKinds item others ++ [mark "]"])
      (.list default (item.2 :: others.map Prod.snd)) := by
    simpa [itemKinds] using Derives.list default each false
  have balanced : Balanced (itemKinds item others) := by
    simpa [itemKinds] using
      Derives.balanced_items (fun other member => (each other member).balanced) false
  have nested : nesting (mark "[" :: itemKinds item others ++ [mark "]"]) =
      nesting (itemKinds item others) + 1 := balanced.nesting_bracketed rfl ⟨rfl, rfl⟩
  refine ⟨_, ?_, derives, nested ▸ Nat.succ_le_succ bound⟩
  rw [nested]
  have inside := (hidden.scans (nesting (itemKinds item others))).append scans fun _ _ => trivial
  exact (inside.bracketed (by decide) (before_ender (by decide))).mono le_rfl fun _ _ => trivial

end Spells

/-! ## Texts that are read -/

/-- A line that is read as a tree of which every node can be evaluated is a row of tokens that
derive the tree. -/
theorem row_of_parseExpression {text : Text} {tree : Tree} {environment : Environment}
    (line : OneLine text) (solid : ∀ char ∈ text.head?, char ∉ Lexer.blanks)
    (read : parseExpression text = .ok tree) (allowed : tree.Allowed environment) :
    ∃ kinds final, Row [] text kinds final ∧ Derives .expression kinds tree ∧
      nesting kinds ≤ nesting ((scan text).tokens.map Token.kind) := by
  unfold parseExpression at read
  split at read
  · cases read
  dsimp only at read
  split at read
  · cases read
  rename_i valid
  split at read
  · cases read
  · cases read
  · cases read
  rename_i found reached ran
  split at read
  · cases read
  cases read
  have scanned := scan_eq_scanFrom line solid
  have valid : (scanFrom (text.length + 1) 0 [] false text).invalid = none := by
    rw [← scanned]
    simpa using valid
  have oneLine : TokenKind.newline ∉ (Cursor.mk (scan text).tokens 0).kinds := by
    rw [scanned]
    exact newline_notMem line valid
  rcases ensures_whole (sound_parse environment callLimit .expression) oneLine _ _ ran allowed with
    ⟨used, rest, spelled, ended, derives⟩
  have spelled : (scan text).tokens.map Token.kind = used ++ rest := spelled
  rw [scanned] at spelled
  rcases row_of_scanFrom line (Nat.lt_succ_self _) valid spelled derives.plain ended with
    ⟨final, row⟩
  refine ⟨used, final, row, derives, ?_⟩
  rw [scanned, spelled, derives.balanced.nesting_append]
  exact Nat.le_max_left _ _

theorem nul_notMem_of_parseExpression {text : Text} {tree : Tree}
    (read : parseExpression text = .ok tree) : '\x00' ∉ text := by
  intro inside
  rw [parseExpression, if_pos (by simpa using inside)] at read
  cases read

end StepScript

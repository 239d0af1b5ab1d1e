import StepScript.Proofs.Expression.Parsing
import StepScript.Proofs.Expression.Whitelist
import StepScript.Proofs.Number.Integer

/-!
# Evaluating what is printed

The tree of an expression has the value of the expression, and the text of an expression has the
tree of the expression.  So printing an expression and evaluating the text is the same as evaluating
the expression.
-/

namespace StepScript

open StepScript.Parser Lexer

/-- An outcome is a value that was found directly, or a fault of the run if there is none. -/
def Agrees {α : Type} (outcome : Except Fault α) (direct : Option α) : Prop :=
  match direct with
  | some value => outcome = .ok value
  | none => ∃ fault, outcome = .error fault ∧ fault.code = .runtime

namespace Agrees

variable {α β : Type}

theorem ok (value : α) : Agrees (.ok value) (some value) :=
  rfl

theorem error (fault : Fault) (code : fault.code = .runtime) :
    Agrees (.error fault : Except Fault α) none :=
  ⟨fault, rfl, code⟩

theorem bind {outcome : Except Fault α} {direct : Option α} {next : α → Except Fault β}
    {directNext : α → Option β} (first : Agrees outcome direct)
    (second : ∀ value, Agrees (next value) (directNext value)) :
    Agrees (outcome >>= next) (direct >>= directNext) := by
  cases direct with
  | some value =>
    have ran : outcome = .ok value := first
    rw [ran]
    exact second value
  | none =>
    rcases first with ⟨fault, rfl, code⟩
    exact ⟨fault, rfl, code⟩

end Agrees

/-- The search finds nothing in trees that are accepted together with all that lies below. -/
theorem Tree.findRejected?_eq_none (good : Tree → Prop)
    (accepted : ∀ tree, good tree → tree.rejected? = none)
    (below : ∀ tree child : Tree, good tree → child ∈ tree.children → good child) (fuel : Nat)
    {level : List Tree} (each : ∀ tree ∈ level, good tree) : findRejected? fuel level = none := by
  induction fuel generalizing level with
  | zero => rfl
  | succ fuel ih =>
    cases level with
    | nil => rfl
    | cons tree others =>
      have here : (tree :: others).findSome? rejected? = none :=
        List.findSome?_eq_none_iff.mpr fun tree member => accepted tree (each tree member)
      rw [findRejected?, here]
      · refine ih fun child member => ?_
        rcases List.mem_flatMap.mp member with ⟨parent, inside, lower⟩
        exact below parent child (each parent inside) lower
      · exact List.cons_ne_nil _ _

namespace Expr

/-! ## Trees -/

theorem Writes.isSlice_eq_false {expression : Expr} {tree : Tree}
    (writes : Writes expression tree) :
    tree.isSlice = false := by
  cases writes <;> rfl

theorem Writes.rejected?_eq_none {expression : Expr} {tree : Tree}
    (writes : Writes expression tree) :
    tree.rejected? = none := by
  cases writes <;> rfl

theorem exists_writes_of_mem {items : List Expr} {trees : List Tree} {child : Tree}
    (each : List.Forall₂ Writes items trees) (member : child ∈ trees) :
    ∃ part, Writes part child := by
  induction each with
  | nil => cases member
  | cons here _ ih =>
    rcases List.mem_cons.mp member with rfl | behind
    · exact ⟨_, here⟩
    · exact ih behind

/-- What lies below a tree that an expression has is such a tree again. -/
theorem Writes.children {expression : Expr} {tree child : Tree} (writes : Writes expression tree)
    (member : child ∈ tree.children) : ∃ part, Writes part child := by
  cases writes with
  | integer span plain => cases member
  | double span pointed => cases member
  | name span identifier => cases member
  | list span each => exact exists_writes_of_mem each member
  | unary span sign below => exact ⟨_, List.mem_singleton.mp member ▸ below⟩
  | binary span operation before behind =>
    simp only [Tree.children, List.mem_cons, List.not_mem_nil, or_false] at member
    rcases member with rfl | rfl
    · exact ⟨_, before⟩
    · exact ⟨_, behind⟩
  | comparison span comparator before behind =>
    simp only [Tree.children, List.mem_cons, List.not_mem_nil, or_false] at member
    rcases member with rfl | rfl
    · exact ⟨_, before⟩
    · exact ⟨_, behind⟩
  | subscript span before inside =>
    simp only [Tree.children, List.mem_cons, List.not_mem_nil, or_false] at member
    rcases member with rfl | rfl
    · exact ⟨_, before⟩
    · exact ⟨_, inside⟩
  | length span before => exact ⟨_, List.mem_singleton.mp member ▸ before⟩

theorem depth_le_of_writes (expression : Expr) {tree : Tree} (writes : Writes expression tree) :
    tree.depth ≤ expression.depth + 1 := by
  induction expression generalizing tree with
  | numeral constant => cases writes <;> exact le_rfl
  | name identifier =>
    cases writes
    exact le_rfl
  | list items ih =>
    cases writes with
    | @list _ trees span each =>
      have deepest : Tree.depths trees ≤ itemDepth items := by
        induction each with
        | nil => exact le_rfl
        | cons here _ others =>
          have first := ih _ List.mem_cons_self here
          have rest := others fun item member => ih item (List.mem_cons_of_mem _ member)
          simp only [Tree.depths, itemDepth]
          omega
      simp only [Tree.depth, depth]
      omega
  | unary sign operand ih =>
    cases writes with
    | unary span sign below =>
      have inner := ih below
      simp only [Tree.depth, depth]
      omega
  | binary operation left right ihLeft ihRight =>
    cases writes with
    | binary span operation before behind =>
      have first := ihLeft before
      have second := ihRight behind
      simp only [Tree.depth, depth]
      omega
  | comparison comparator left right ihLeft ihRight =>
    cases writes with
    | comparison span comparator before behind =>
      have first := ihLeft before
      have second := ihRight behind
      simp only [Tree.depth, Tree.depths, depth]
      omega
  | subscript target index ihTarget ihIndex =>
    cases writes with
    | subscript span before inside =>
      have first := ihTarget before
      have second := ihIndex inside
      simp only [Tree.depth, depth]
      omega
  | length target ih =>
    cases writes with
    | length span before =>
      have inner := ih before
      simp only [Tree.depth, depth]
      omega

/-! ## Values -/

variable (environment : Environment) (source : Text)

theorem lookUp_agrees (identifier : Identifier) :
    Agrees (Tree.lookUp environment identifier.text) (identifier.value? environment) := by
  unfold Tree.lookUp Identifier.value?
  cases Environment.find? identifier.text environment with
  | some value => exact .ok value
  | none =>
    dsimp only
    split
    · exact .ok _
    · split
      · exact .ok _
      · exact .error _ rfl

theorem operandNumber_agrees (tree : Tree) (value : Value) :
    Agrees (tree.operandNumber source value) value.numeric? := by
  cases value with
  | number number => exact .ok _
  | boolean truth => exact .ok _
  | array cells => exact .error _ rfl

theorem cell_agrees (cells : List Value) (index : Value) (part : Text) :
    Agrees (do
      let place ← index.position cells.length part
      match cells[place]? with
      | some cell => return cell
      | none => throw (.invalidIndex part)) (do
      let place ← Number.natural? (← index.number?)
      cells[place]?) := by
  cases index with
  | boolean truth => exact .error _ rfl
  | array cells => exact .error _ rfl
  | number index =>
    change Agrees _ ((Number.natural? index).bind fun place => cells[place]?)
    simp only [Value.position]
    cases Number.natural? index with
    | none => exact .error (.indexOutOfBounds index part cells.length) rfl
    | some place =>
      by_cases inside : place < cells.length
      · have cell : cells[place]? = some cells[place] := List.getElem?_eq_getElem inside
        simp only [Option.filter, inside, decide_true, if_true, Option.bind_some, cell]
        change Agrees (match cells[place]? with | some cell => _ | none => _) _
        rw [cell]
        exact .ok _
      · have missing : cells[place]? = none := List.getElem?_eq_none (not_lt.mp inside)
        simp only [Option.filter, inside, decide_false, Option.bind_some, missing]
        exact .error (.indexOutOfBounds index part cells.length) rfl

theorem evaluate_agrees (expression : Expr) {tree : Tree} (writes : Writes expression tree)
    {room : Nat} (fits : tree.depth ≤ room) :
    Agrees (tree.evaluate environment source room) (expression.value environment) := by
  induction expression generalizing tree room with
    obtain ⟨room, rfl, inner⟩ := Tree.exists_room fits
  | numeral constant =>
    cases writes with
    | integer span plain =>
      have constantValue : constant.value = Float.ofNat constant.whole := by
        rw [Constant.value, if_pos plain]
      simp only [Tree.evaluate, value, constantValue, Number.ofInteger?_of_lt constant.bounded]
      exact .ok _
    | double span pointed => exact .ok _
  | name identifier =>
    cases writes
    exact lookUp_agrees environment identifier
  | list items ih =>
    cases writes with
    | @list _ trees span each =>
      have cells (part : Text) : Agrees (Tree.evaluateItems environment source part room trees)
          (values environment items) := by
        clear fits
        induction each with
        | nil => exact .ok _
        | cons here _ others =>
          have rest := others (fun item member => ih item (List.mem_cons_of_mem _ member))
            fun tree member => inner tree (List.mem_cons_of_mem _ member)
          simp only [Tree.evaluateItems, values]
          refine (ih _ List.mem_cons_self here (inner _ List.mem_cons_self)).bind fun found => ?_
          cases found with
          | number number => exact rest.bind fun cells => .ok _
          | _ => exact .error _ rfl
      simp only [Tree.evaluate, value]
      exact (cells _).bind fun found => .ok _
  | unary sign operand ih =>
    cases writes with
    | unary span sign below =>
      simp only [Tree.evaluate, value]
      refine (ih below (inner _ (by simp [Tree.children]))).bind fun found => ?_
      refine (operandNumber_agrees source _ found).bind fun number => ?_
      cases sign <;> exact .ok _
  | binary operation left right ihLeft ihRight =>
    cases writes with
    | binary span operation before behind =>
      simp only [Tree.evaluate, value]
      refine (ihLeft before (inner _ (by simp [Tree.children]))).bind fun left => ?_
      refine (operandNumber_agrees source _ left).bind fun first => ?_
      refine (ihRight behind (inner _ (by simp [Tree.children]))).bind fun right => ?_
      refine (operandNumber_agrees source _ right).bind fun second => ?_
      cases operation <;> exact .ok _
  | comparison comparator left right ihLeft ihRight =>
    cases writes with
    | comparison span comparator before behind =>
      simp only [Tree.evaluate, value]
      refine (ihLeft before (inner _ (by simp [Tree.children]))).bind fun left => ?_
      refine (ihRight behind (inner _ (by simp [Tree.children]))).bind fun right => ?_
      cases left <;> cases right <;> first | exact .ok _ | exact .error _ rfl
  | subscript target index ihTarget ihIndex =>
    cases writes with
    | subscript span before inside =>
      simp only [Tree.evaluate, value, inside.isSlice_eq_false]
      refine (ihTarget before (inner _ (by simp [Tree.children]))).bind fun target => ?_
      cases target with
      | array cells =>
        refine (ihIndex inside (inner _ (by simp [Tree.children]))).bind fun index => ?_
        exact cell_agrees cells index _
      | _ => exact .error _ rfl
  | length target ih =>
    cases writes with
    | length span before =>
      simp only [Tree.evaluate, value]
      refine (ih before (inner _ (by simp [Tree.children]))).bind fun target => ?_
      cases target with
      | array cells => exact .ok _
      | _ => exact .error _ rfl

/-! ## Texts -/

end Expr

/-- A text is read as a tree if its tokens are read as one at the level of whole expressions. -/
theorem parseExpression_of_reads {room : Nat} {allowed : Text → Prop} {text : Text}
    {kinds : List TokenKind} {good : Tree → Prop} (scans : Scans room allowed text kinds)
    (ends : allowed []) (few : room ≤ bracketLimit)
    (visible : ∀ char ∈ text.head?, char ∉ separators)
    (plain : '\x00' ∉ text) (reads : Reads (parse callLimit .expression) .expression kinds good)
    (shallow : ∀ tree, good tree → tree.depth ≤ constructionLimit) :
    ∃ tree, parseExpression text = .ok tree ∧ good tree := by
  rcases scans.scan_eq ends few visible with ⟨tokens, last, scanned, spelled, finish⟩
  have inner := reads tokens last [] spelled (finish ▸ by decide)
  have whole : Yields (whole (parse callLimit)) (tokens ++ [last]) [] good := by
    refine (yields_position _).bind fun start _ => ?_
    refine inner.bind fun tree fine => ?_
    refine (yields_at false (by simp [finish, mark])).bind ?_
    rintro _ rfl
    refine (Yields.pure fine).bind fun tree (fine : good tree) => ?_
    refine (yields_extend_none fun value => yields_missed (by simp [finish]) (.pure rfl)).bind
      fun _ _ => ?_
    refine (yields_expect finish).bind fun _ _ => ?_
    exact .pure fine
  rcases whole 0 with ⟨tree, stop, read, fine⟩
  refine ⟨tree, ?_, fine⟩
  have small : ¬constructionLimit < tree.depth := not_lt.mpr (shallow tree fine)
  simp only [parseExpression, List.contains_eq_mem, plain, decide_false, scanned, read, small,
    Bool.false_eq_true, if_false, Option.isSome_none]

namespace Expr

theorem parseExpression_print (expression : Expr) (shallow : expression.depth ≤ 60) :
    ∃ tree, parseExpression expression.print = .ok tree ∧ Writes expression tree := by
  have few : expression.depth + 1 ≤ bracketLimit := by
    rw [bracketLimit]
    omega
  have affordable : expression.cost ≤ callLimit + Level.expression.index := by
    simp only [cost, callLimit, Level.index]
    omega
  have below : Level.expression.index ≤ expression.top.index :=
    (show Level.expression.index ≤ (levelOf 0).index by decide).trans
      (index_levelOf_le (Nat.zero_le _))
  have plain : '\x00' ∉ expression.print := fun member => ne_nul_of_mem_print member rfl
  refine parseExpression_of_reads expression.lexes.scans (before_nil _) few
    expression.visible_of_print plain
    (expression.isParsed.reads .expression below callLimit affordable) fun tree writes => ?_
  have bound := depth_le_of_writes expression writes
  rw [constructionLimit]
  omega

/-- Evaluating the text of an expression gives the value of the expression, and a fault of the run
if it has none. -/
theorem evaluateText_print (expression : Expr) (shallow : expression.depth ≤ 60)
    (environment : Environment) :
    Agrees (evaluateText expression.print environment) (expression.value environment) := by
  rcases expression.parseExpression_print shallow with ⟨tree, parsed, writes⟩
  have nonempty : expression.print.isEmpty = false := by
    rcases expression.print_head with ⟨char, rest, text, _⟩
    rw [text]
    rfl
  have accepted : checkTree expression.print tree = .ok () := by
    have none := Tree.findRejected?_eq_none (fun tree => ∃ expression, Writes expression tree)
      (fun tree ⟨_, writes⟩ => writes.rejected?_eq_none)
      (fun tree child ⟨_, writes⟩ member => writes.children member) (tree.depth + 1)
      (List.forall_mem_singleton.mpr ⟨expression, writes⟩)
    rw [checkTree, none]
  have evaluated : evaluateText expression.print environment =
      tree.evaluate environment expression.print nestingLimit := by
    simp only [evaluateText, expression.stripStatement_print, nonempty, parsed, Bool.false_eq_true,
      if_false]
    change (checkTree expression.print tree >>= fun _ => _) = _
    rw [accepted]
    rfl
  have fits : tree.depth ≤ nestingLimit := by
    have bound := depth_le_of_writes expression writes
    rw [nestingLimit]
    omega
  rw [evaluated]
  exact evaluate_agrees environment expression.print expression writes fits

/-- A comparison, printed with the parentheses that its sign needs. -/
theorem evaluateText_print_of_comparison :
    let x : Expr := .name ⟨'x', [], by decide, by simp, by decide⟩
    let numeral : Expr := .numeral ⟨2, [5], (show 2 < 10 by decide).trans
      (lt_self_pow₀ (by decide) (by decide))⟩
    let expression : Expr :=
      .comparison .atMost (.unary .minus (.binary .plus x x)) (.length (.list [x, numeral]))
    expression.depth ≤ 60 ∧ expression.print = "-(x + x) <= [x, 2.5].length".toList ∧
      expression.value [(['x'], .number 1)] = some (.boolean true) ∧
      Agrees (evaluateText expression.print [(['x'], .number 1)])
        (expression.value [(['x'], .number 1)]) := by
  intro x numeral expression
  have shallow : expression.depth ≤ 60 := by decide
  exact ⟨shallow, by decide, rfl, evaluateText_print expression shallow _⟩

end Expr

end StepScript

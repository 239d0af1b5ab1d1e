import StepScript.Expression.Evaluate

/-!
# What an evaluated expression can hold

Evaluation visits every node, so a tree that has a value holds nothing but what is evaluated, and is
no deeper than there is room for.  The search for rejected constructs runs in front and reads no
environment, so a construct is found also where evaluation would stop before it.
-/

namespace StepScript

/-- An outcome of two steps is an outcome of the first that the second takes up. -/
theorem Fault.exists_of_bind {α β : Type} {first : Except Fault α} {next : α → Except Fault β}
    {result : β} (done : (first >>= next) = .ok result) :
    ∃ value, first = .ok value ∧ next value = .ok result := by
  cases first with
  | error fault => cases done
  | ok value => exact ⟨value, rfl, done⟩

/-- An outcome that passes a test is a result that passes it. -/
theorem Fault.exists_of_any {α : Type} {outcome : Except Fault α} {accepts : α → Bool}
    (found : outcome.toOption.any accepts = true) :
    ∃ value, outcome = .ok value ∧ accepts value = true := by
  cases outcome with
  | error fault => cases found
  | ok value => exact ⟨value, rfl, found⟩

namespace Tree

/-- A node of a tree: the tree itself, or a node of a child. -/
inductive Within (node : Tree) : Tree → Prop where
  | top : Within node node
  | inner {tree child : Tree} (member : child ∈ tree.children) (inside : Within node child) :
      Within node tree

/-- The nodes that evaluation knows how to go through.  A name has to stand for something. -/
def Permitted (environment : Environment) : Tree → Prop
  | .integer _ _ | .double _ _ | .list _ _ => True
  | .name _ spelling =>
    (Environment.find? spelling environment).isSome ∨ spelling = "true".toList ∨
      spelling = "false".toList
  | .unary _ operator _ => operator ≠ .unsupported
  | .binary _ operator _ _ => operator ≠ .unsupported
  | .comparison _ _ operators others =>
    ∃ comparator other, operators = [some comparator] ∧ others = [other]
  | .subscript _ _ index => index.isSlice = false
  | .attribute _ _ property => property = "length".toList
  | .literal _ | .slice _ _ | .rejected _ _ | .unsupported _ _ _ => False

/-- A tree all of whose nodes are permitted. -/
def Allowed (environment : Environment) (tree : Tree) : Prop :=
  ∀ node : Tree, node.Within tree → node.Permitted environment

theorem Allowed.child {environment : Environment} {tree child : Tree}
    (allowed : tree.Allowed environment) (member : child ∈ tree.children) :
    child.Allowed environment :=
  fun node inside => allowed node (.inner member inside)

/-! ## Evaluation visits every node -/

section Visits

variable {environment : Environment} {source : Text} {room : Nat}

theorem permitted_of_lookUp {name : Text} {value : Value}
    (found : lookUp environment name = .ok value) :
    (Environment.find? name environment).isSome ∨ name = "true".toList ∨
      name = "false".toList := by
  unfold lookUp at found
  split at found
  case h_1 bound => exact Or.inl (by rw [bound]; rfl)
  case h_2 =>
    split at found
    · exact Or.inr (Or.inl ‹_›)
    · split at found
      · exact Or.inr (Or.inr ‹_›)
      · cases found

/-- A tree with a value has been visited. -/
theorem exists_room_of_evaluate {tree : Tree} {value : Value}
    (evaluated : tree.evaluate environment source room = .ok value) :
    ∃ below, room = below + 1 := by
  cases room with
  | zero =>
    rw [evaluate] at evaluated
    cases evaluated
  | succ below => exact ⟨below, rfl⟩

theorem evaluate_item_of_mem {part : Text} {items : List Tree} {cells : List Value} {item : Tree}
    (evaluated : evaluateItems environment source part room items = .ok cells)
    (member : item ∈ items) :
    ∃ value, item.evaluate environment source room = .ok value := by
  induction items generalizing cells with
  | nil => cases member
  | cons first rest ih =>
    rcases Fault.exists_of_bind evaluated with ⟨value, here, behind⟩
    cases value with
    | boolean => cases behind
    | array => cases behind
    | number number =>
      rcases Fault.exists_of_bind behind with ⟨others, more, _⟩
      rcases List.mem_cons.mp member with rfl | later
      · exact ⟨_, here⟩
      · exact ih more later

/-- A node with a value is permitted, and everything directly below it has a value. -/
theorem visit_of_evaluate {tree : Tree} {value : Value}
    (evaluated : tree.evaluate environment source (room + 1) = .ok value) :
    tree.Permitted environment ∧
      ∀ child ∈ tree.children, ∃ below, child.evaluate environment source room = .ok below := by
  cases tree with
  | integer span number => exact ⟨trivial, by simp [children]⟩
  | double span number => exact ⟨trivial, by simp [children]⟩
  | literal span => cases evaluated
  | name span spelling => exact ⟨permitted_of_lookUp evaluated, by simp [children]⟩
  | list span items =>
    rw [evaluate] at evaluated
    rcases Fault.exists_of_bind evaluated with ⟨cells, each, _⟩
    exact ⟨trivial, fun item member => evaluate_item_of_mem each member⟩
  | unary span operator operand =>
    rw [evaluate] at evaluated
    rcases Fault.exists_of_bind evaluated with ⟨below, here, evaluated⟩
    rcases Fault.exists_of_bind evaluated with ⟨number, _, evaluated⟩
    refine ⟨?_, by simpa [children] using ⟨below, here⟩⟩
    rintro rfl
    cases evaluated
  | binary span operator left right =>
    rw [evaluate] at evaluated
    rcases Fault.exists_of_bind evaluated with ⟨leftValue, onLeft, evaluated⟩
    rcases Fault.exists_of_bind evaluated with ⟨leftNumber, _, evaluated⟩
    rcases Fault.exists_of_bind evaluated with ⟨rightValue, onRight, evaluated⟩
    rcases Fault.exists_of_bind evaluated with ⟨rightNumber, _, evaluated⟩
    refine ⟨?_, by simpa [children] using ⟨⟨_, onLeft⟩, ⟨_, onRight⟩⟩⟩
    rintro rfl
    cases evaluated
  | comparison span first operators others =>
    rcases operators with _ | ⟨operator, _ | ⟨_, _⟩⟩ <;>
      rcases others with _ | ⟨other, _ | ⟨_, _⟩⟩ <;> try cases evaluated
    cases operator with
    | none => cases evaluated
    | some comparator =>
      rw [evaluate] at evaluated
      rcases Fault.exists_of_bind evaluated with ⟨_, onLeft, evaluated⟩
      rcases Fault.exists_of_bind evaluated with ⟨_, onRight, _⟩
      exact ⟨⟨comparator, other, rfl, rfl⟩, by simpa [children] using ⟨⟨_, onLeft⟩, ⟨_, onRight⟩⟩⟩
  | subscript span target index =>
    rw [evaluate] at evaluated
    split at evaluated
    · cases evaluated
    · rename_i plain
      rcases Fault.exists_of_bind evaluated with ⟨array, onTarget, evaluated⟩
      cases array with
      | number => cases evaluated
      | boolean => cases evaluated
      | array cells =>
        rcases Fault.exists_of_bind evaluated with ⟨_, onIndex, _⟩
        exact ⟨eq_false_of_ne_true plain, by simpa [children] using ⟨⟨_, onTarget⟩, ⟨_, onIndex⟩⟩⟩
  | slice span bounds => cases evaluated
  | «attribute» span target property =>
    rw [evaluate] at evaluated
    split at evaluated
    · rename_i length
      rcases Fault.exists_of_bind evaluated with ⟨_, onTarget, _⟩
      exact ⟨length, by simpa [children] using ⟨_, onTarget⟩⟩
    · cases evaluated
  | rejected span construct => cases evaluated
  | unsupported span construct parts => cases evaluated

/-- Whatever lies below a tree with a value has a value. -/
theorem exists_value_of_child {tree child : Tree} {value : Value}
    (evaluated : tree.evaluate environment source room = .ok value)
    (member : child ∈ tree.children) :
    ∃ below inner, child.evaluate environment source below = .ok inner := by
  rcases exists_room_of_evaluate evaluated with ⟨room, rfl⟩
  exact ⟨room, (visit_of_evaluate evaluated).2 child member⟩

/-- A tree with a value holds nothing but what is evaluated. -/
theorem allowed_of_evaluate {tree : Tree} {value : Value}
    (evaluated : tree.evaluate environment source room = .ok value) :
    tree.Allowed environment := by
  intro node inside
  induction inside generalizing room value with
  | top =>
    rcases exists_room_of_evaluate evaluated with ⟨room, rfl⟩
    exact (visit_of_evaluate evaluated).1
  | inner member inside ih =>
    rcases exists_value_of_child evaluated member with ⟨_, _, below⟩
    exact ih below

end Visits

/-! ## Depth and room -/

theorem depth_eq (tree : Tree) : tree.depth = depths tree.children + 1 := by
  cases tree <;> simp [depth, depths, children]

theorem depth_le_depths {tree : Tree} {trees : List Tree} (member : tree ∈ trees) :
    tree.depth ≤ depths trees := by
  induction trees with
  | nil => cases member
  | cons first rest ih =>
    rw [depths]
    rcases List.mem_cons.mp member with rfl | behind
    · exact Nat.le_max_left _ _
    · exact Nat.le_trans (ih behind) (Nat.le_max_right _ _)

theorem depths_le {trees : List Tree} {bound : Nat} (each : ∀ tree ∈ trees, tree.depth ≤ bound) :
    depths trees ≤ bound := by
  induction trees with
  | nil => exact Nat.zero_le _
  | cons tree trees ih =>
    exact Nat.max_le.mpr ⟨each tree List.mem_cons_self,
      ih fun other member => each other (List.mem_cons_of_mem _ member)⟩

theorem depth_child_lt {tree child : Tree} (member : child ∈ tree.children) :
    child.depth < tree.depth := by
  rw [depth_eq tree]
  exact Nat.lt_succ_of_le (depth_le_depths member)

/-- Room for a tree is room for its first level and, below that, for its children. -/
theorem exists_room {tree : Tree} {room : Nat} (fits : tree.depth ≤ room) :
    ∃ below, room = below + 1 ∧ ∀ child ∈ tree.children, child.depth ≤ below := by
  cases room with
  | zero => simp [depth_eq] at fits
  | succ below =>
    refine ⟨below, rfl, fun child member => ?_⟩
    exact Nat.le_of_lt_succ (Nat.lt_of_lt_of_le (depth_child_lt member) fits)

/-- Only what there is room for has a value. -/
theorem depth_le_of_evaluate {environment : Environment} {source : Text} {room : Nat} {tree : Tree}
    {value : Value} (evaluated : tree.evaluate environment source room = .ok value) :
    tree.depth ≤ room := by
  induction room generalizing tree value with
  | zero =>
    rcases exists_room_of_evaluate evaluated with ⟨below, impossible⟩
    cases impossible
  | succ room ih =>
    rw [depth_eq]
    refine Nat.succ_le_succ (depths_le fun child member => ?_)
    rcases (visit_of_evaluate evaluated).2 child member with ⟨_, below⟩
    exact ih below

/-! ## The search for rejected constructs -/

theorem isSome_findRejected? {fuel : Nat} {level : List Tree} {tree node : Tree}
    (member : tree ∈ level) (inside : node.Within tree) (rejected : node.rejected?.isSome)
    (enough : tree.depth ≤ fuel) :
    (findRejected? fuel level).isSome := by
  induction inside generalizing fuel level with
  | top =>
    cases fuel with
    | zero => simp [depth_eq] at enough
    | succ fuel =>
      have here : (level.findSome? rejected?).isSome := by
        rw [List.isSome_findSome?]
        exact List.any_eq_true.mpr ⟨node, member, rejected⟩
      rcases Option.isSome_iff_exists.mp here with ⟨construct, found⟩
      cases level with
      | nil => cases member
      | cons first rest => simp [findRejected?, found]
  | @inner tree child lower inside ih =>
    have shallower := depth_child_lt lower
    cases fuel with
    | zero => omega
    | succ fuel =>
      have below : (findRejected? fuel (level.flatMap children)).isSome :=
        ih (List.mem_flatMap.mpr ⟨tree, member, lower⟩) (by omega)
      cases level with
      | nil => cases member
      | cons first rest =>
        rw [findRejected?.eq_def]
        dsimp only
        split
        · rfl
        · exact below

end Tree

/-- A tree that holds a rejected construct has the same fault in every environment, because the
search for it comes before any name is looked up. -/
theorem exists_fault_of_rejected {text : Text} {tree node : Tree}
    (read : parseExpression (stripStatement text) = .ok tree) (inside : node.Within tree)
    (rejected : node.rejected?.isSome) :
    ∃ fault : Fault, fault.code = .runtime ∧
      ∀ environment, evaluateText text environment = .error fault := by
  have found := Tree.isSome_findRejected? (List.mem_singleton_self tree) inside rejected
    (Nat.le_succ tree.depth)
  rcases Option.isSome_iff_exists.mp found with ⟨construct, here⟩
  have refused : ∃ fault : Fault, fault.code = .runtime ∧
      checkTree (stripStatement text) tree = .error fault := by
    unfold checkTree
    rw [here]
    cases construct <;> exact ⟨_, rfl, rfl⟩
  rcases refused with ⟨fault, code, refused⟩
  by_cases empty : (stripStatement text).isEmpty
  · exact ⟨.emptyExpression text, rfl, fun environment => by simp [evaluateText, empty]⟩
  · refine ⟨fault, code, fun environment => ?_⟩
    simp only [evaluateText, empty, read]
    change (checkTree (stripStatement text) tree >>= fun _ => _) = _
    rw [refused]
    rfl

theorem exists_tree_of_evaluateText {text : Text} {environment : Environment} {value : Value}
    (evaluated : evaluateText text environment = .ok value) :
    ∃ tree, parseExpression (stripStatement text) = .ok tree ∧
      tree.evaluate environment (stripStatement text) nestingLimit = .ok value := by
  unfold evaluateText at evaluated
  dsimp only at evaluated
  split at evaluated
  · cases evaluated
  · rcases Fault.exists_of_bind evaluated with ⟨tree, read, evaluated⟩
    rcases Fault.exists_of_bind evaluated with ⟨_, _, evaluated⟩
    exact ⟨tree, read, evaluated⟩

/-- The whitelist is closed: what has a value is built from permitted nodes only, and a rejected
construct anywhere in a tree makes one fault of the run, whatever the environment is. -/
theorem evaluateText_closed (text : Text) (environment : Environment) :
    (∀ value, evaluateText text environment = .ok value →
      ∃ tree, parseExpression (stripStatement text) = .ok tree ∧ tree.Allowed environment) ∧
    (∀ tree node : Tree, parseExpression (stripStatement text) = .ok tree → node.Within tree →
      node.rejected?.isSome →
        ∃ fault : Fault, fault.code = .runtime ∧
          ∀ other, evaluateText text other = .error fault) := by
  constructor
  · intro value evaluated
    rcases exists_tree_of_evaluateText evaluated with ⟨tree, read, evaluated⟩
    exact ⟨tree, read, Tree.allowed_of_evaluate evaluated⟩
  · intro tree node read inside rejected
    exact exists_fault_of_rejected read inside rejected

theorem evaluateText_closed_of_name :
    (∃ tree, parseExpression (stripStatement "(a)".toList) = .ok tree ∧
      tree.Allowed [("a".toList, .array [])]) ∧
    (∃ fault : Fault, fault.code = .runtime ∧
      ∀ other, evaluateText "[nowhere, f(1)]".toList other = .error fault) := by
  have array : (evaluateText "(a)".toList [("a".toList, .array [])]).toOption.any
      Value.isArray = true := by decide +kernel
  have call : (parseExpression (stripStatement "[nowhere, f(1)]".toList)).toOption.any (fun tree =>
      tree.children.any fun child => child.rejected?.isSome) = true := by decide +kernel
  constructor
  · rcases Fault.exists_of_any array with ⟨value, evaluated, -⟩
    exact (evaluateText_closed _ _).1 value evaluated
  · rcases Fault.exists_of_any call with ⟨tree, read, found⟩
    rcases List.any_eq_true.mp found with ⟨child, member, rejected⟩
    exact (evaluateText_closed _ []).2 tree child read (.inner member .top) rejected

end StepScript

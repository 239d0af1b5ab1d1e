import StepScript.Proofs.Expression.Evaluation

/-!
# What the value of a tree depends on

The places of its nodes tell a fault what to quote, and nothing else.  Without them a tree has the
same value, is nested as deeply and is refused for the same constructs.  Nor does the room for its
levels matter, as long as the tree fits.
-/

namespace StepScript

namespace Tree

mutual

/-- A tree without the places of its nodes. -/
def bare : Tree → Tree
  | .integer _ value => .integer default value
  | .double _ value => .double default value
  | .literal _ => .literal default
  | .name _ spelling => .name default spelling
  | .list _ items => .list default (bares items)
  | .unary _ operator operand => .unary default operator (bare operand)
  | .binary _ operator left right => .binary default operator (bare left) (bare right)
  | .comparison _ first operators others =>
    .comparison default (bare first) operators (bares others)
  | .subscript _ target index => .subscript default (bare target) (bare index)
  | .slice _ bounds => .slice default (bares bounds)
  | .attribute _ target property => .attribute default (bare target) property
  | .rejected _ construct => .rejected default construct
  | .unsupported _ construct parts => .unsupported default construct (bares parts)

/-- Trees without the places of their nodes. -/
def bares : List Tree → List Tree
  | [] => []
  | tree :: rest => bare tree :: bares rest

end

theorem bares_eq_map (trees : List Tree) : bares trees = trees.map bare := by
  induction trees with
  | nil => rfl
  | cons tree trees ih => rw [bares, ih, List.map_cons]

theorem bares_of_forall₂ {ι : Type} {mean : ι → Tree} {items : List ι} {trees : List Tree}
    (same : List.Forall₂ (fun item tree => tree.bare = (mean item).bare) items trees) :
    bares trees = bares (items.map mean) := by
  induction same with
  | nil => rfl
  | cons here _ more => rw [List.map_cons, bares, bares, here, more]

@[simp] theorem isSlice_bare (tree : Tree) : tree.bare.isSlice = tree.isSlice := by
  cases tree <;> rfl

@[simp] theorem rejected?_bare (tree : Tree) : tree.bare.rejected? = tree.rejected? := by
  cases tree <;> rfl

@[simp] theorem children_bare (tree : Tree) : tree.bare.children = tree.children.map bare := by
  cases tree <;> simp [bare, children, bares_eq_map]

mutual

@[simp] theorem depth_bare : ∀ tree : Tree, tree.bare.depth = tree.depth
  | .integer _ _ | .double _ _ | .literal _ | .name _ _ | .rejected _ _ => rfl
  | .list _ items => by rw [bare, depth, depth, depths_bares items]
  | .unary _ _ operand => by rw [bare, depth, depth, depth_bare operand]
  | .binary _ _ left right => by rw [bare, depth, depth, depth_bare left, depth_bare right]
  | .comparison _ first _ others => by
    rw [bare, depth, depth, depth_bare first, depths_bares others]
  | .subscript _ target index => by rw [bare, depth, depth, depth_bare target, depth_bare index]
  | .slice _ bounds => by rw [bare, depth, depth, depths_bares bounds]
  | .attribute _ target _ => by rw [bare, depth, depth, depth_bare target]
  | .unsupported _ _ parts => by rw [bare, depth, depth, depths_bares parts]

theorem depths_bares : ∀ trees : List Tree, depths (bares trees) = depths trees
  | [] => rfl
  | tree :: rest => by rw [bares, depths, depths, depth_bare tree, depths_bares rest]

end

theorem findRejected?_bare (fuel : Nat) (level : List Tree) :
    findRejected? fuel (level.map bare) = findRejected? fuel level := by
  induction fuel generalizing level with
  | zero => rfl
  | succ fuel ih =>
    cases level with
    | nil => rfl
    | cons tree others =>
      have below : ((tree :: others).map bare).flatMap children =
          ((tree :: others).flatMap children).map bare := by
        rw [List.flatMap_map, List.map_flatMap]
        simp
      have here : ((tree :: others).map bare).findSome? rejected? =
          (tree :: others).findSome? rejected? := by
        rw [List.findSome?_map]
        simp [Function.comp_def]
      rw [findRejected?.eq_def, findRejected?.eq_def]
      simp only [List.map_cons] at below here ⊢
      rw [here, below, ih]

end Tree

namespace Agrees

variable {α β : Type}

theorem of_bind {outcome other : Except Fault α} {next nextOther : α → Except Fault β}
    (first : Agrees outcome other.toOption)
    (second : ∀ value, Agrees (next value) (nextOther value).toOption) :
    Agrees (outcome >>= next) (other >>= nextOther).toOption := by
  have joined := first.bind second
  cases other <;> exact joined

/-- Outcomes that agree with the same value agree with each other. -/
theorem toOption_eq {outcome : Except Fault α} {direct : Option α}
    (agrees : Agrees outcome direct) : outcome.toOption = direct := by
  cases direct with
  | some value =>
    have ran : outcome = .ok value := agrees
    rw [ran]
    rfl
  | none =>
    rcases agrees with ⟨fault, rfl, _⟩
    rfl

end Agrees

namespace Tree

variable (environment : Environment) (source other : Text)

theorem lookUp_agrees (name : Text) :
    Agrees (lookUp environment name) (lookUp environment name).toOption := by
  unfold lookUp
  split
  · exact .ok _
  · split
    · exact .ok _
    · split
      · exact .ok _
      · exact .error _ rfl

theorem operandNumber_agrees (tree hidden : Tree) (value : Value) :
    Agrees (tree.operandNumber source value) (hidden.operandNumber other value).toOption := by
  cases value with
  | number number => exact .ok _
  | boolean truth => exact .ok _
  | array cells => exact .error _ rfl

theorem compare_agrees (comparator : Comparator) (left right : Value) (part shown : Option Text) :
    Agrees (comparator.compare left right part) (comparator.compare left right shown).toOption := by
  cases left <;> cases right <;> first | exact .ok _ | exact .error _ rfl

theorem position_agrees (index : Value) (length : Nat) (part shown : Text) :
    Agrees (index.position length part) (index.position length shown).toOption := by
  cases index with
  | number number =>
    simp only [Value.position]
    cases (Number.natural? number).filter (· < length) with
    | some place => exact .ok _
    | none => exact .error _ rfl
  | boolean truth => exact .error _ rfl
  | array cells => exact .error _ rfl

mutual

/-- Without its places a tree has the same value, and a fault of the run if it has none. -/
theorem evaluate_bare : ∀ (room : Nat) (tree : Tree),
    Agrees (tree.evaluate environment source room)
      (tree.bare.evaluate environment other room).toOption
  | 0, tree => by
    rw [evaluate, evaluate]
    exact .error _ rfl
  | _ + 1, .integer _ value => by
    rw [bare, evaluate, evaluate]
    cases Number.ofInteger? value with
    | some number => exact .ok _
    | none => exact .error _ rfl
  | _ + 1, .double _ value => .ok _
  | _ + 1, .literal _ => .error _ rfl
  | _ + 1, .name _ spelling => lookUp_agrees environment spelling
  | room + 1, .list span items => by
    rw [bare, evaluate, evaluate]
    exact (evaluateItems_bares _ _ room items).of_bind fun cells => .ok _
  | room + 1, .unary span operator operand => by
    rw [bare, evaluate, evaluate]
    refine (evaluate_bare room operand).of_bind fun value => ?_
    refine (operandNumber_agrees source other _ _ value).of_bind fun number => ?_
    cases operator <;> first | exact .ok _ | exact .error _ rfl
  | room + 1, .binary span operator left right => by
    rw [bare, evaluate, evaluate]
    refine (evaluate_bare room left).of_bind fun value => ?_
    refine (operandNumber_agrees source other _ _ value).of_bind fun number => ?_
    refine (evaluate_bare room right).of_bind fun value => ?_
    refine (operandNumber_agrees source other _ _ value).of_bind fun number => ?_
    cases operator <;> first | exact .ok _ | exact .error _ rfl
  | room + 1, .comparison span first [some comparator] [last] => by
    rw [bare, bares, bares, evaluate, evaluate]
    refine (evaluate_bare room first).of_bind fun left => ?_
    refine (evaluate_bare room last).of_bind fun right => ?_
    exact (compare_agrees comparator left right _ _).of_bind fun truth => .ok _
  | _ + 1, .comparison _ _ [none] [_] => .error _ rfl
  | _ + 1, .comparison _ _ [] _ | _ + 1, .comparison _ _ (_ :: _ :: _) _ => .error _ rfl
  | _ + 1, .comparison _ _ [_] [] | _ + 1, .comparison _ _ [_] (_ :: _ :: _) => .error _ rfl
  | room + 1, .subscript span target index => by
    rw [bare, evaluate, evaluate, isSlice_bare]
    split
    · exact .error _ rfl
    refine (evaluate_bare room target).of_bind fun value => ?_
    cases value with
    | number number => exact .error _ rfl
    | boolean truth => exact .error _ rfl
    | array cells =>
      refine (evaluate_bare room index).of_bind fun value => ?_
      refine (position_agrees value _ _ _).of_bind fun place => ?_
      cases cells[place]? with
      | some cell => exact .ok _
      | none => exact .error _ rfl
  | room + 1, .attribute span target property => by
    rw [bare, evaluate, evaluate]
    split
    · refine (evaluate_bare room target).of_bind fun value => ?_
      cases value with
      | number number => exact .error _ rfl
      | boolean truth => exact .error _ rfl
      | array cells => exact .ok _
    · exact .error _ rfl
  | _ + 1, .slice _ _ | _ + 1, .rejected _ _ | _ + 1, .unsupported _ _ _ => .error _ rfl

theorem evaluateItems_bares (part partOther : Text) (room : Nat) : ∀ trees : List Tree,
    Agrees (evaluateItems environment source part room trees)
      (evaluateItems environment other partOther room (bares trees)).toOption
  | [] => .ok _
  | tree :: rest => by
    rw [bares, evaluateItems, evaluateItems]
    refine (evaluate_bare room tree).of_bind fun value => ?_
    cases value with
    | number number =>
      exact (evaluateItems_bares part partOther room rest).of_bind fun cells => .ok _
    | boolean truth => exact .error _ rfl
    | array cells => exact .error _ rfl

end

/-- Trees that differ in their places only have the same value. -/
theorem evaluate_congr {tree hidden : Tree} (same : tree.bare = hidden.bare) (room : Nat) :
    Agrees (tree.evaluate environment source room)
      (hidden.evaluate environment other room).toOption := by
  have known := evaluate_bare environment source [] room tree
  rwa [same, ← (evaluate_bare environment other [] room hidden).toOption_eq] at known

/-! ## Room -/

variable {environment source}

theorem evaluateItems_congr {part : Text} {room wide : Nat} {items : List Tree}
    (same : ∀ item ∈ items,
      item.evaluate environment source room = item.evaluate environment source wide) :
    evaluateItems environment source part room items =
      evaluateItems environment source part wide items := by
  induction items with
  | nil => rfl
  | cons item rest ih =>
    rw [evaluateItems, evaluateItems, same item List.mem_cons_self,
      ih fun other member => same other (List.mem_cons_of_mem _ member)]

/-- How much room there is makes no difference to a tree that fits. -/
theorem evaluate_eq_of_depth_le {tree : Tree} {room wide : Nat} (fits : tree.depth ≤ room)
    (also : tree.depth ≤ wide) :
    tree.evaluate environment source room = tree.evaluate environment source wide := by
  induction room generalizing tree wide with
  | zero => simp [depth_eq] at fits
  | succ room ih =>
    obtain ⟨wide, rfl, inner⟩ := exists_room also
    have same : ∀ child ∈ tree.children,
        child.evaluate environment source room = child.evaluate environment source wide :=
      fun child member => ih (Nat.le_of_lt_succ ((depth_child_lt member).trans_le fits))
        (inner child member)
    cases tree with
    | integer | double | literal | name | slice | rejected | unsupported => rw [evaluate, evaluate]
    | list span items =>
      rw [evaluate, evaluate, evaluateItems_congr (show ∀ item ∈ items, _ from same)]
    | unary span operator operand =>
      rw [evaluate, evaluate, same operand (by simp [children])]
    | binary span operator left right =>
      rw [evaluate, evaluate, same left (by simp [children]), same right (by simp [children])]
    | comparison span first operators others =>
      rcases operators with _ | ⟨operator, _ | ⟨_, _⟩⟩ <;>
        rcases others with _ | ⟨last, _ | ⟨_, _⟩⟩ <;> try rfl
      cases operator with
      | none => rfl
      | some comparator =>
        rw [evaluate, evaluate, same first (by simp [children]), same last (by simp [children])]
    | subscript span target index =>
      rw [evaluate, evaluate, same target (by simp [children]), same index (by simp [children])]
    | «attribute» span target property =>
      rw [evaluate, evaluate, same target (by simp [children])]

/-- The value of a tree, with as much room as it needs. -/
def value? (environment : Environment) (tree : Tree) : Option Value :=
  (tree.evaluate environment [] tree.depth).toOption

theorem toOption_evaluate {tree : Tree} {room : Nat} (fits : tree.depth ≤ room) :
    (tree.evaluate environment [] room).toOption = tree.value? environment := by
  rw [value?, evaluate_eq_of_depth_le fits le_rfl]

theorem evaluate_of_value? {tree : Tree} {value : Value}
    (found : tree.value? environment = some value) {room : Nat} (fits : tree.depth ≤ room) :
    tree.evaluate environment [] room = .ok value := by
  rw [← toOption_evaluate fits] at found
  cases outcome : tree.evaluate environment [] room with
  | ok other =>
    rw [outcome] at found
    cases found
    rfl
  | error fault =>
    rw [outcome] at found
    cases found

theorem agrees_value? {tree hidden : Tree} (same : tree.bare = hidden.bare) {room : Nat}
    (fits : hidden.depth ≤ room) :
    Agrees (tree.evaluate environment source room) (hidden.value? environment) := by
  rw [← toOption_evaluate fits]
  exact evaluate_congr environment source [] same room

end Tree

end StepScript

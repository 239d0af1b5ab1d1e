import StepScript.Proofs.Expression.Bare
import StepScript.Proofs.Expression.Ender
import StepScript.Proofs.Expression.Whitelist

/-!
# Derivations

A derivation tells how tokens form an expression of which every part can be evaluated.  It knows
nothing of cursors and nested calls: what is derived at a level is read there as the tree that is
derived, up to where the nodes stand, as long as the brackets and the nodes are not nested too
deeply.
-/

namespace StepScript

open StepScript.Parser

namespace Parser

/-! ## Nested brackets -/

/-- How many brackets are open behind a token. -/
def openBehind (count : Nat) : TokenKind → Nat
  | .mark [char] =>
    if (Token.closer? char).isSome then count + 1
    else if Token.isCloser char then count - 1
    else count
  | _ => count

/-- The most brackets that are open at once. -/
def deepest (count : Nat) : List TokenKind → Nat
  | [] => count
  | kind :: rest => max count (deepest (openBehind count kind) rest)

/-- How deeply brackets are nested. -/
def nesting (kinds : List TokenKind) : Nat :=
  deepest 0 kinds

/-- Tokens that close the brackets that they open, and no others. -/
structure Balanced (kinds : List TokenKind) : Prop where
  deepest_append : ∀ count rest,
    deepest count (kinds ++ rest) = max (count + nesting kinds) (deepest count rest)
  openBehind_eq : ∀ count, kinds.foldl openBehind count = count

namespace Balanced

variable {kinds others : List TokenKind}

theorem le_deepest (count : Nat) (kinds : List TokenKind) : count ≤ deepest count kinds := by
  cases kinds with
  | nil => exact le_rfl
  | cons kind rest => exact Nat.le_max_left _ _

theorem nil : Balanced [] where
  deepest_append count rest := (max_eq_right (le_deepest count rest)).symm
  openBehind_eq _ := rfl

theorem single {kind : TokenKind} (plain : ∀ count, openBehind count kind = count) :
    Balanced [kind] := by
  have flat : nesting [kind] = 0 := by simp [nesting, deepest, plain]
  constructor
  · intro count rest
    rw [flat, List.singleton_append, deepest, plain, Nat.add_zero]
  · exact plain

theorem nesting_append (balanced : Balanced kinds) (others : List TokenKind) :
    nesting (kinds ++ others) = max (nesting kinds) (nesting others) := by
  rw [nesting, balanced.deepest_append, Nat.zero_add]
  rfl

theorem append (first : Balanced kinds) (second : Balanced others) :
    Balanced (kinds ++ others) := by
  constructor
  · intro count rest
    rw [List.append_assoc, first.deepest_append, second.deepest_append, first.nesting_append]
    omega
  · intro count
    rw [List.foldl_append, first.openBehind_eq, second.openBehind_eq]

section Brackets

variable {opening closing : Char} (opens : (Token.closer? opening).isSome)
  (closes : Token.closer? closing = none ∧ Token.isCloser closing = true)

include opens closes in
theorem deepest_bracketed (balanced : Balanced kinds) (count : Nat) (rest : List TokenKind) :
    deepest count (.mark [opening] :: kinds ++ [.mark [closing]] ++ rest) =
      max (count + (nesting kinds + 1)) (deepest count rest) := by
  have up : openBehind count (.mark [opening]) = count + 1 := if_pos opens
  have down : openBehind (count + 1) (.mark [closing]) = count := by
    simp [openBehind, closes.1, closes.2]
  have above := le_deepest count rest
  simp only [List.cons_append, List.append_assoc, List.nil_append]
  rw [deepest, up, balanced.deepest_append, deepest, down]
  omega

include opens closes in
theorem nesting_bracketed (balanced : Balanced kinds) :
    nesting (.mark [opening] :: kinds ++ [.mark [closing]]) = nesting kinds + 1 := by
  have whole := deepest_bracketed opens closes balanced 0 []
  rw [List.append_nil] at whole
  rw [nesting, whole]
  simp [deepest]

include opens closes in
theorem bracketed (balanced : Balanced kinds) :
    Balanced (.mark [opening] :: kinds ++ [.mark [closing]]) := by
  constructor
  · intro count rest
    rw [deepest_bracketed opens closes balanced, nesting_bracketed opens closes balanced]
  · intro count
    have up : openBehind count (.mark [opening]) = count + 1 := if_pos opens
    have down : openBehind (count + 1) (.mark [closing]) = count := by
      simp [openBehind, closes.1, closes.2]
    rw [List.cons_append, List.foldl_cons, List.foldl_append, up, balanced.openBehind_eq,
      List.foldl_cons, down, List.foldl_nil]

end Brackets

section Items

variable {ι : Type} {spell : ι → List TokenKind} {items : List ι}

theorem flatMap (each : ∀ item ∈ items, Balanced (spell item)) :
    Balanced (items.flatMap spell) := by
  induction items with
  | nil => exact nil
  | cons item items ih =>
    rw [List.flatMap_cons]
    exact (each item List.mem_cons_self).append
      (ih fun other member => each other (List.mem_cons_of_mem _ member))

theorem nesting_le_of_mem (each : ∀ item ∈ items, Balanced (spell item)) {item : ι}
    (member : item ∈ items) : nesting (spell item) ≤ nesting (items.flatMap spell) := by
  induction items with
  | nil => cases member
  | cons first items ih =>
    rw [List.flatMap_cons, (each first List.mem_cons_self).nesting_append]
    rcases List.mem_cons.mp member with rfl | behind
    · exact Nat.le_max_left _ _
    · exact (ih (fun other among => each other (List.mem_cons_of_mem _ among)) behind).trans
        (Nat.le_max_right _ _)

end Items

theorem comma : Balanced [mark ","] :=
  single fun _ => rfl

/-- A token in front changes nothing if it is no bracket. -/
theorem cons {kind : TokenKind} (plain : ∀ count, openBehind count kind = count)
    (balanced : Balanced kinds) : Balanced (kind :: kinds) :=
  (single plain).append balanced

theorem nesting_cons {kind : TokenKind} (plain : ∀ count, openBehind count kind = count)
    (kinds : List TokenKind) : nesting (kind :: kinds) = nesting kinds := by
  have flat : nesting [kind] = 0 := by simp [nesting, deepest, plain]
  rw [← List.singleton_append, (single plain).nesting_append, flat, Nat.zero_max]

end Balanced

/-! ## Derivations -/

/-- Tokens of some kinds form an expression at a level, and at all looser ones. -/
inductive Derives : Level → List TokenKind → Tree → Prop where
  | integer (span : Span) (value : Nat) : Derives .atom [.integer value] (.integer span value)
  | double (span : Span) (value : Float) : Derives .atom [.double value] (.double span value)
  | name (span : Span) (spelling : Text) :
      Derives .atom [.name spelling] (.name span (Text.normalForm spelling))
  | group {kinds : List TokenKind} {tree : Tree} (inside : Derives .named kinds tree) :
    Derives .atom (mark "(" :: kinds ++ [mark ")"]) tree
  | emptyList (span : Span) : Derives .atom [mark "[", mark "]"] (.list span [])
  | list (span : Span) {item : List TokenKind × Tree} {others : List (List TokenKind × Tree)}
    (each : ∀ other ∈ item :: others, Derives .named other.1 other.2) (trailing : Bool) :
    Derives .atom
      (mark "[" :: (item.1 ++ (others.flatMap (fun other => mark "," :: other.1) ++
        if trailing then [mark ","] else [])) ++ [mark "]"])
      (.list span (item.2 :: others.map Prod.snd))
  | property (span : Span) {kinds : List TokenKind} {target : Tree} (spelling : Text)
    (before : Derives .primary kinds target) :
    Derives .primary (kinds ++ [mark ".", .name spelling])
      (.attribute span target (Text.normalForm spelling))
  | subscript (span : Span) {kinds others : List TokenKind} {target index : Tree}
    (before : Derives .primary kinds target) (inside : Derives .named others index) :
    Derives .primary (kinds ++ (mark "[" :: others ++ [mark "]"])) (.subscript span target index)
  | unary (span : Span) {kinds : List TokenKind} {operand : Tree} (sign : Expr.Sign)
    (below : Derives .factor kinds operand) :
    Derives .factor (.mark sign.symbol :: kinds) (.unary span sign.operator operand)
  | binary (span : Span) {kinds others : List TokenKind} {left right : Tree}
    (operation : Expr.Operation) (before : Derives operation.level kinds left)
    (behind : Derives operation.level.inner others right) :
    Derives operation.level (kinds ++ .mark operation.symbol :: others)
      (.binary span operation.operator left right)
  | comparison (span : Span) {kinds others : List TokenKind} {left right : Tree}
    (comparator : Comparator) (before : Derives .bitOr kinds left)
    (behind : Derives .bitOr others right) :
    Derives .comparison (kinds ++ .mark comparator.symbol :: others)
      (.comparison span left [some comparator] [right])
  | outward {level : Level} {kinds : List TokenKind} {tree : Tree} (loose : level.index < 16)
    (below : Derives level.inner kinds tree) : Derives level kinds tree

theorem openBehind_sign (sign : Expr.Sign) (count : Nat) :
    openBehind count (.mark sign.symbol) = count := by
  cases sign <;> rfl

theorem openBehind_operation (operation : Expr.Operation) (count : Nat) :
    openBehind count (.mark operation.symbol) = count := by
  cases operation <;> rfl

theorem openBehind_comparator (comparator : Comparator) (count : Nat) :
    openBehind count (.mark comparator.symbol) = count := by
  cases comparator <;> rfl

namespace Derives

variable {level : Level} {kinds : List TokenKind} {tree : Tree}

/-- The tokens inside a list, with the comma that may stand behind the last item. -/
theorem balanced_items {item : List TokenKind × Tree} {others : List (List TokenKind × Tree)}
    (each : ∀ other ∈ item :: others, Balanced other.1) (trailing : Bool) :
    Balanced (item.1 ++ (others.flatMap (fun other => mark "," :: other.1) ++
      if trailing then [mark ","] else [])) := by
  have more : Balanced (others.flatMap fun other => mark "," :: other.1) :=
    Balanced.flatMap fun other member =>
      (each other (List.mem_cons_of_mem _ member)).cons fun _ => rfl
  have last : Balanced (if trailing then [mark ","] else []) := by
    cases trailing
    · exact .nil
    · exact .comma
  exact (each item List.mem_cons_self).append (more.append last)

theorem nesting_le_items {item : List TokenKind × Tree} {others : List (List TokenKind × Tree)}
    (each : ∀ other ∈ item :: others, Balanced other.1) (trailing : Bool)
    {other : List TokenKind × Tree} (member : other ∈ item :: others) :
    nesting other.1 ≤ nesting (item.1 ++ (others.flatMap (fun other => mark "," :: other.1) ++
      if trailing then [mark ","] else [])) := by
  have later (other : List TokenKind × Tree) (among : other ∈ others) :
      Balanced (mark "," :: other.1) :=
    (each other (List.mem_cons_of_mem _ among)).cons fun _ => rfl
  rw [(each item List.mem_cons_self).nesting_append, (Balanced.flatMap later).nesting_append]
  rcases List.mem_cons.mp member with rfl | behind
  · omega
  · have inside := Balanced.nesting_le_of_mem later behind
    rw [Balanced.nesting_cons fun _ => rfl] at inside
    omega

theorem balanced (derives : Derives level kinds tree) : Balanced kinds := by
  induction derives with
  | integer span value => exact .single fun _ => rfl
  | double span value => exact .single fun _ => rfl
  | name span spelling => exact .single fun _ => rfl
  | group inside ih => exact ih.bracketed rfl ⟨rfl, rfl⟩
  | emptyList span => exact Balanced.nil.bracketed rfl ⟨rfl, rfl⟩
  | list span each trailing ih => exact (balanced_items ih trailing).bracketed rfl ⟨rfl, rfl⟩
  | property span spelling before ih =>
    exact ih.append ((Balanced.single fun _ => rfl).cons fun _ => rfl)
  | subscript span before inside ihBefore ihInside =>
    exact ihBefore.append (ihInside.bracketed rfl ⟨rfl, rfl⟩)
  | unary span sign below ih => exact ih.cons (openBehind_sign sign)
  | binary span operation before behind ihBefore ihBehind =>
    exact ihBefore.append (ihBehind.cons (openBehind_operation operation))
  | comparison span comparator before behind ihBefore ihBehind =>
    exact ihBefore.append (ihBehind.cons (openBehind_comparator comparator))
  | outward loose below ih => exact ih

/-- Expressions are made of names, numbers and marks. -/
theorem plain (derives : Derives level kinds tree) : ∀ kind ∈ kinds, kind.isPlain = true := by
  induction derives with
  | integer span value => exact List.forall_mem_singleton.mpr rfl
  | double span value => exact List.forall_mem_singleton.mpr rfl
  | name span spelling => exact List.forall_mem_singleton.mpr rfl
  | group inside ih =>
    simp only [List.forall_mem_append, List.forall_mem_cons, List.not_mem_nil,
      false_implies, implies_true, and_true]
    exact ⟨⟨rfl, ih⟩, rfl⟩
  | emptyList span =>
    simp only [List.forall_mem_cons, List.not_mem_nil,
      false_implies, implies_true, and_true]
    exact ⟨rfl, rfl⟩
  | @list span item others each trailing ih =>
    have last : ∀ kind ∈ if trailing then [mark ","] else [], kind.isPlain = true := by
      cases trailing
      · exact List.forall_mem_nil _
      · exact List.forall_mem_singleton.mpr rfl
    have more : ∀ kind ∈ others.flatMap fun other => mark "," :: other.1, kind.isPlain = true := by
      intro kind member
      rcases List.mem_flatMap.mp member with ⟨other, among, inside⟩
      rcases List.mem_cons.mp inside with rfl | inside
      · rfl
      · exact ih other (List.mem_cons_of_mem _ among) kind inside
    simp only [List.forall_mem_append, List.forall_mem_cons, List.not_mem_nil,
      false_implies, implies_true, and_true]
    exact ⟨⟨rfl, ih item List.mem_cons_self, more, last⟩, rfl⟩
  | property span spelling before ih =>
    simp only [List.forall_mem_append, List.forall_mem_cons, List.not_mem_nil,
      false_implies, implies_true, and_true]
    exact ⟨ih, rfl, rfl⟩
  | subscript span before inside ihBefore ihInside =>
    simp only [List.forall_mem_append, List.forall_mem_cons, List.not_mem_nil,
      false_implies, implies_true, and_true]
    exact ⟨ihBefore, ⟨rfl, ihInside⟩, rfl⟩
  | unary span sign below ih =>
    exact List.forall_mem_cons.mpr ⟨by cases sign <;> rfl, ih⟩
  | binary span operation before behind ihBefore ihBehind =>
    simp only [List.forall_mem_append, List.forall_mem_cons]
    exact ⟨ihBefore, by cases operation <;> rfl, ihBehind⟩
  | comparison span comparator before behind ihBefore ihBehind =>
    simp only [List.forall_mem_append, List.forall_mem_cons]
    exact ⟨ihBefore, by cases comparator <;> rfl, ihBehind⟩
  | outward loose below ih => exact ih

theorem rejected?_eq_none (derives : Derives level kinds tree) : tree.rejected? = none := by
  induction derives with
  | group inside ih => exact ih
  | outward loose below ih => exact ih
  | _ => rfl

theorem isSlice_eq_false (derives : Derives level kinds tree) : tree.isSlice = false := by
  induction derives with
  | group inside ih => exact ih
  | outward loose below ih => exact ih
  | _ => rfl

/-- What lies below a derived tree is derived as well. -/
theorem children (derives : Derives level kinds tree) {child : Tree}
    (member : child ∈ tree.children) : ∃ level kinds, Derives level kinds child := by
  induction derives with
  | integer span value => cases member
  | double span value => cases member
  | name span spelling => cases member
  | group inside ih => exact ih member
  | emptyList span => cases member
  | @list span item others each trailing ih =>
    rcases List.mem_cons.mp member with rfl | behind
    · exact ⟨_, _, each item List.mem_cons_self⟩
    · rcases List.mem_map.mp behind with ⟨other, among, rfl⟩
      exact ⟨_, _, each other (List.mem_cons_of_mem _ among)⟩
  | property span spelling before ih => exact ⟨_, _, List.mem_singleton.mp member ▸ before⟩
  | subscript span before inside ihBefore ihInside =>
    simp only [Tree.children, List.mem_cons, List.not_mem_nil, or_false] at member
    rcases member with rfl | rfl
    · exact ⟨_, _, before⟩
    · exact ⟨_, _, inside⟩
  | unary span sign below ih => exact ⟨_, _, List.mem_singleton.mp member ▸ below⟩
  | binary span operation before behind ihBefore ihBehind =>
    simp only [Tree.children, List.mem_cons, List.not_mem_nil, or_false] at member
    rcases member with rfl | rfl
    · exact ⟨_, _, before⟩
    · exact ⟨_, _, behind⟩
  | comparison span comparator before behind ihBefore ihBehind =>
    simp only [Tree.children, List.mem_cons, List.not_mem_nil, or_false] at member
    rcases member with rfl | rfl
    · exact ⟨_, _, before⟩
    · exact ⟨_, _, behind⟩
  | outward loose below ih => exact ih member

/-- What is derived at a level is derived at all looser ones. -/
theorem loosen {tight : Level} (derives : Derives tight kinds tree) {loose : Level}
    (below : loose.index ≤ tight.index) : Derives loose kinds tree := by
  by_cases same : loose.index = tight.index
  · exact Level.index_injective same ▸ derives
  have bound := tight.index_le
  have next : loose.inner.index = loose.index + 1 := Level.index_inner (by omega)
  exact .outward (by omega) (loosen derives (by omega))
termination_by tight.index - loose.index

/-- So many nested calls are enough to read what is derived: each bracket costs one way down the
ladder, and each node at most one call. -/
def cost (kinds : List TokenKind) (tree : Tree) : Nat :=
  17 * (nesting kinds + 1) + tree.depth

theorem costly (kinds : List TokenKind) (tree : Tree) : 17 ≤ cost kinds tree := by
  rw [cost]
  omega

theorem cost_le_items {item : List TokenKind × Tree} {others : List (List TokenKind × Tree)}
    (each : ∀ other ∈ item :: others, Balanced other.1) (trailing : Bool)
    {other : List TokenKind × Tree} (member : other ∈ item :: others) :
    cost other.1 other.2 ≤
      17 * (nesting (item.1 ++ (others.flatMap (fun other => mark "," :: other.1) ++
        if trailing then [mark ","] else [])) + 1) +
        Tree.depths (item.2 :: others.map Prod.snd) := by
  have shallower := nesting_le_items each trailing member
  have shorter : other.2.depth ≤ Tree.depths (item.2 :: others.map Prod.snd) :=
    Tree.depth_le_depths (List.mem_map_of_mem (f := Prod.snd) member)
  rw [cost]
  omega

theorem parsed_list {item : List TokenKind × Tree} {others : List (List TokenKind × Tree)}
    (span : Span) (each : ∀ other ∈ item :: others, Balanced other.1)
    (items : ∀ other ∈ item :: others,
      Parsed .named (cost other.1 other.2) other.1 (·.bare = other.2.bare)) (trailing : Bool) :
    let kinds := mark "[" :: (item.1 ++ (others.flatMap (fun other => mark "," :: other.1) ++
      if trailing then [mark ","] else [])) ++ [mark "]"]
    let tree := Tree.list span (item.2 :: others.map Prod.snd)
    Parsed .atom (cost kinds tree) kinds (·.bare = tree.bare) := by
  have nested : nesting (mark "[" ::
      (item.1 ++ (others.flatMap (fun other => mark "," :: other.1) ++
        if trailing then [mark ","] else [])) ++ [mark "]"]) = _ :=
    (balanced_items each trailing).nesting_bracketed rfl ⟨rfl, rfl⟩
  have inner (other : List TokenKind × Tree) (member : other ∈ item :: others) :=
    (items other member).mono le_rfl (cost_le_items each trailing member)
  intro kinds tree
  refine ((Parsed.list inner (by omega) trailing).mono le_rfl ?_).imp ?_
  · rw [cost, nested]
    simp only [tree, Tree.depth]
    omega
  · rintro _ ⟨place, trees, rfl, same⟩
    simp only [tree, Tree.bare, Tree.bares_of_forall₂ same, List.map_cons]

/-- A cell is read if the array and the index are. -/
theorem parsed_subscript {others : List TokenKind} {target index : Tree} (span : Span)
    (before : Balanced kinds) (inside : Balanced others)
    (outer : Parsed .primary (cost kinds target) kinds (·.bare = target.bare))
    (inner : Parsed .named (cost others index) others (·.bare = index.bare)) :
    Parsed .primary (cost (kinds ++ (mark "[" :: others ++ [mark "]"]))
        (.subscript span target index))
      (kinds ++ (mark "[" :: others ++ [mark "]"]))
      (·.bare = (Tree.subscript span target index).bare) := by
  have bracketed : nesting (mark "[" :: others ++ [mark "]"]) = nesting others + 1 :=
    inside.nesting_bracketed rfl ⟨rfl, rfl⟩
  have nested := before.nesting_append (mark "[" :: others ++ [mark "]"])
  have front : cost kinds target ≤ cost (kinds ++ (mark "[" :: others ++ [mark "]"]))
      (.subscript span target index) := by
    simp only [cost, nested, Tree.depth]
    omega
  have within : cost others index + 16 ≤ cost (kinds ++ (mark "[" :: others ++ [mark "]"]))
      (.subscript span target index) := by
    simp only [cost, nested, bracketed, Tree.depth]
    omega
  refine ((outer.mono le_rfl front).subscript inner (costly _ _) within).imp ?_
  rintro _ ⟨place, first, second, rfl, same, sameIndex⟩
  simp only [Tree.bare, same, sameIndex]

/-- What can be derived at a level is read there. -/
theorem parsed (derives : Derives level kinds tree) :
    Parsed level (cost kinds tree) kinds (·.bare = tree.bare) := by
  induction derives with
  | integer | double | name =>
    refine ((Parsed.leaf rfl).mono le_rfl (costly _ _)).imp ?_
    rintro _ ⟨place, rfl⟩
    rfl
  | @group kinds tree inside ih =>
    have nested : nesting (mark "(" :: kinds ++ [mark ")"]) = nesting kinds + 1 :=
      inside.balanced.nesting_bracketed rfl ⟨rfl, rfl⟩
    refine (ih.parenthesized (costly _ _)).mono le_rfl ?_
    rw [cost, cost, nested]
    omega
  | emptyList span =>
    refine (Parsed.emptyList.mono le_rfl (costly _ _)).imp ?_
    rintro _ ⟨place, rfl⟩
    rfl
  | list span each trailing ih =>
    exact parsed_list span (fun other member => (each other member).balanced) ih trailing
  | @property span kinds target spelling before ih =>
    have nested := before.balanced.nesting_append [mark ".", .name spelling]
    refine ((ih.property spelling (costly _ _)).mono le_rfl ?_).imp ?_
    · rw [cost, cost, nested]
      simp only [Tree.depth]
      omega
    · rintro _ ⟨place, target, rfl, same⟩
      simp only [Tree.bare, same]
  | subscript span before inside ihBefore ihInside =>
    exact parsed_subscript span before.balanced inside.balanced ihBefore ihInside
  | unary span sign below ih =>
    refine ((ih.unary sign (costly _ _)).mono le_rfl ?_).imp ?_
    · rw [cost, cost, Balanced.nesting_cons (openBehind_sign sign)]
      simp only [Tree.depth]
      omega
    · rintro _ ⟨place, operand, rfl, same⟩
      simp only [Tree.bare, same]
  | @binary span kinds others left right operation before behind ihBefore ihBehind =>
    have nested := before.balanced.nesting_append (.mark operation.symbol :: others)
    rw [Balanced.nesting_cons (openBehind_operation operation)] at nested
    refine ((ihBefore.mono le_rfl ?_).binary operation (ihBehind.mono le_rfl ?_)
      (costly _ _)).imp ?_
    · simp only [cost, nested, Tree.depth]
      omega
    · simp only [cost, nested, Tree.depth]
      omega
    · rintro _ ⟨place, first, second, rfl, same, sameRight⟩
      simp only [Tree.bare, same, sameRight]
  | @comparison span kinds others left right comparator before behind ihBefore ihBehind =>
    have nested := before.balanced.nesting_append (.mark comparator.symbol :: others)
    rw [Balanced.nesting_cons (openBehind_comparator comparator)] at nested
    refine ((ihBefore.mono le_rfl ?_).comparison comparator (ihBehind.mono le_rfl ?_)
      (costly _ _)).imp ?_
    · simp only [cost, nested, Tree.depth, Tree.depths]
      omega
    · simp only [cost, nested, Tree.depth, Tree.depths]
      omega
    · rintro _ ⟨place, first, second, rfl, same, sameRight⟩
      simp only [Tree.bare, Tree.bares, same, sameRight]
  | outward loose below ih => exact ih.mono (by rw [Level.index_inner loose]; omega) le_rfl

end Derives

end Parser

end StepScript

import Mathlib
import StepScript.Block

/-!
# Where the lines of a block come from

The lines behind a block are the end of the lines that follow its header, and the statements of its
body lie on lines from the header on.
-/

namespace StepScript

theorem index_numberLines (start : Nat) (lines : List Text) :
    (numberLines start lines).map Line.index = List.range' start lines.length := by
  induction lines generalizing start with
  | nil => rfl
  | cons line rest ih =>
    rw [numberLines, List.map_cons, ih, List.length_cons, List.range'_succ]

theorem numberLines_append (start : Nat) (lines more : List Text) :
    numberLines start (lines ++ more) =
      numberLines start lines ++ numberLines (start + lines.length) more := by
  induction lines generalizing start with
  | nil => rfl
  | cons line rest ih =>
    rw [List.cons_append, numberLines, ih, numberLines, List.length_cons, List.cons_append]
    congr 3
    omega

theorem of_numberLines_eq {start : Nat} {texts : List Text} {before after : List Line}
    {close : Line} (whole : numberLines start texts = before ++ close :: after) :
    close.index = start + before.length ∧
      after = numberLines (close.index + 1) (texts.drop (before.length + 1)) := by
  induction before generalizing start texts with
  | nil =>
    cases texts with
    | nil => cases whole
    | cons text texts =>
      cases whole
      exact ⟨rfl, rfl⟩
  | cons first before ih =>
    cases texts with
    | nil => cases whole
    | cons text texts =>
      obtain ⟨index, later⟩ := ih (List.cons.inj whole).2
      refine ⟨?_, later⟩
      rw [index, List.length_cons, Nat.add_assoc, Nat.add_comm 1]

namespace Block

/-- What stands behind the end of a block makes no difference to the scan. -/
theorem splitAtClose?_replace {depth : Int} {opened : Bool} {lines before after : List Line}
    {close : Line} (split : splitAtClose? depth opened lines = some (before, close, after))
    (other : List Line) :
    splitAtClose? depth opened (before ++ close :: other) = some (before, close, other) := by
  induction lines generalizing depth opened before with
  | nil => cases split
  | cons line rest ih =>
    rw [splitAtClose?] at split
    dsimp only at split
    split at split
    next closed =>
      cases split
      exact if_pos closed
    next goesOn =>
      simp only [Option.map_eq_some_iff, Prod.mk.injEq, Prod.exists] at split
      rcases split with ⟨inner, last, behind, found, rfl, rfl, rfl⟩
      rw [List.cons_append, splitAtClose?]
      dsimp only
      rw [if_neg goesOn, ih found]
      rfl

theorem index_of_interiorStatement? {line statement : Line}
    (kept : interiorStatement? line = some statement) : statement.index = line.index := by
  unfold interiorStatement? at kept
  dsimp only at kept
  split at kept
  · simp at kept
  · cases Option.some.inj kept
    rfl

variable {header : Line} {following : List Line} {block : Block}

/-- A block is cut from the lines of a script at its last line.  Its statements stand on the header
or on the lines between. -/
theorem split_of_extract (extracted : extract header following = .ok block) :
    ∃ before close, header :: following = before ++ close :: block.after ∧
      block.endIndex = close.index ∧
      ∀ line ∈ block.body, line.index = header.index ∨
        ∃ source ∈ before.tail, line.index = source.index := by
  unfold extract at extracted
  split at extracted
  · simp at extracted
  next before close after split =>
    cases Except.ok.inj extracted
    refine ⟨before, close, eq_append_of_splitAtClose? split, rfl, ?_⟩
    intro line member
    rcases List.mem_append.mp member with first | inner
    · rcases List.mem_map.mp first with ⟨text, _, rfl⟩
      exact .inl rfl
    · rcases List.mem_filterMap.mp inner with ⟨source, inside, kept⟩
      exact .inr ⟨source, inside, index_of_interiorStatement? kept⟩

/-- The lines behind a block end the lines it was cut from. -/
theorem after_isSuffix (extracted : extract header following = .ok block) :
    block.after <:+ following := by
  rcases split_of_extract extracted with ⟨before, close, whole, _⟩
  cases before with
  | nil =>
    rcases List.cons.inj whole with ⟨_, same⟩
    exact same ▸ List.suffix_rfl
  | cons first inner =>
    rcases List.cons.inj whole with ⟨_, rest⟩
    exact ⟨inner ++ [close], by simp [rest]⟩

/-- The statements of a body lie on the line of the header or on lines behind it. -/
theorem index_of_mem_body (extracted : extract header following = .ok block) :
    ∀ line ∈ block.body, line.index ∈ (header :: following).map Line.index := by
  rcases split_of_extract extracted with ⟨before, close, whole, _, body⟩
  intro line member
  rcases body line member with same | ⟨source, inside, same⟩
  · rw [same]
    exact List.mem_map_of_mem List.mem_cons_self
  · rw [same, whole]
    exact List.mem_map_of_mem (List.mem_append_left _ (List.mem_of_mem_tail inside))

/-- The last line of a block is one of those it was cut from. -/
theorem endIndex_mem (extracted : extract header following = .ok block) :
    block.endIndex ∈ (header :: following).map Line.index := by
  rcases split_of_extract extracted with ⟨before, close, whole, ends, _⟩
  rw [whole, ends]
  exact List.mem_map_of_mem (by simp)

section Sorted

variable (sorted : ((header :: following).map Line.index).Pairwise (· < ·))

include sorted in
theorem header_le_endIndex (extracted : extract header following = .ok block) :
    header.index ≤ block.endIndex := by
  rcases split_of_extract extracted with ⟨before, close, whole, ends, _⟩
  rw [ends]
  cases before with
  | nil =>
    rcases List.cons.inj whole with ⟨rfl, _⟩
    exact Nat.le_refl _
  | cons first inner =>
    rcases List.cons.inj whole with ⟨rfl, rfl⟩
    rw [List.map_cons, List.pairwise_cons] at sorted
    exact Nat.le_of_lt (sorted.1 close.index (List.mem_map_of_mem (by simp)))

include sorted in
/-- In a script, the statements of a body lie on the line of the header, or behind it and in front
of the last line of the block. -/
theorem index_between_of_mem_body (extracted : extract header following = .ok block) :
    ∀ line ∈ block.body, line.index = header.index ∨
      header.index < line.index ∧ line.index < block.endIndex := by
  rcases split_of_extract extracted with ⟨before, close, whole, ends, body⟩
  intro line member
  rcases body line member with same | ⟨source, inside, same⟩
  · exact .inl same
  · cases before with
    | nil => simp at inside
    | cons first inner =>
      rcases List.cons.inj whole with ⟨rfl, rest⟩
      rw [show following = inner ++ close :: block.after from rest, List.map_cons,
        List.pairwise_cons, List.map_append, List.map_cons] at sorted
      have behind : header.index < source.index :=
        sorted.1 source.index (List.mem_append_left _ (List.mem_map_of_mem inside))
      have inFront : source.index < close.index :=
        (List.pairwise_append.mp sorted.2).2.2 _ (List.mem_map_of_mem inside) _ List.mem_cons_self
      rw [same, ends]
      exact .inr ⟨behind, inFront⟩

end Sorted

end Block

end StepScript

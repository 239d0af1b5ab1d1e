import StepScript.Proofs.Padding.Line
import StepScript.Text.Lines

/-!
# Padded scripts

A script is padded by filler behind its lines and by inert lines between them.  The lines of the
script keep their order; `place` tells where each of them stands in the padded script.
-/

namespace StepScript

def IsLine (text : Text) : Prop :=
  ∀ char ∈ text, Text.isLineEnd char = false

/-- The lines of a padded script are the lines of a script, each with filler behind it, and inert
lines. -/
structure Padding (lines padded : List Text) (place : Nat → Nat) : Prop where
  ordered : StrictMono place
  kept : ∀ index line, lines[index]? = some line →
    ∃ filler, IsFiller filler ∧ padded[place index]? = some (line ++ filler)
  inserted : ∀ index line, padded[index]? = some line →
    (∀ source, source < lines.length → place source ≠ index) → IsInert line

/-! ## Joined lines -/

namespace Text

/-- Lines with an empty line at the end lose it when they are joined and split again. -/
def withoutEmptyEnd (lines : List Text) : List Text :=
  if lines.getLast? = some [] then lines.dropLast else lines

theorem lines_of_isLineEnd {char : Char} {rest : Text}
    (plain : ∀ more, ¬(char = '\r' ∧ rest = '\n' :: more)) (ends : isLineEnd char = true) :
    lines (char :: rest) = [] :: lines rest := by
  rw [lines]
  · rw [if_pos ends]
  · intro more returned fed
    exact plain more ⟨returned, fed⟩

theorem ne_return_of_isLineEnd {char : Char} (inside : isLineEnd char = false) : char ≠ '\r' := by
  rintro rfl
  revert inside
  decide

/-- A line is read up to the line feed behind it. -/
theorem lines_append {line : Text} (isLine : IsLine line) (rest : Text) :
    lines (line ++ '\n' :: rest) = line :: lines rest := by
  induction line with
  | nil => exact lines_of_isLineEnd (by simp) (by decide)
  | cons char line ih =>
    have inside := isLine char List.mem_cons_self
    have later := ih fun other member => isLine other (List.mem_cons_of_mem char member)
    rw [List.cons_append, lines]
    · simp [inside, later]
    · intro more returned
      exact absurd returned (ne_return_of_isLineEnd inside)

theorem lines_of_isLine {line : Text} (isLine : IsLine line) :
    lines line = withoutEmptyEnd [line] := by
  induction line with
  | nil => rfl
  | cons char line ih =>
    have inside := isLine char List.mem_cons_self
    have later := ih fun other member => isLine other (List.mem_cons_of_mem char member)
    rw [lines]
    · cases line <;> simp [inside, later, withoutEmptyEnd]
    · intro more returned
      exact absurd returned (ne_return_of_isLineEnd inside)

/-- Joined lines are split again where they were joined. -/
theorem lines_intercalate {all : List Text} (areLines : ∀ line ∈ all, IsLine line) :
    lines (List.intercalate ['\n'] all) = withoutEmptyEnd all := by
  induction all with
  | nil => rfl
  | cons line rest ih =>
    have first := areLines line List.mem_cons_self
    have later := ih fun other member => areLines other (List.mem_cons_of_mem line member)
    cases rest with
    | nil => simpa [List.intercalate] using lines_of_isLine first
    | cons next rest =>
      have joined : List.intercalate ['\n'] (line :: next :: rest) =
          line ++ '\n' :: List.intercalate ['\n'] (next :: rest) := by
        simp [List.intercalate, List.intersperse]
      rw [joined, lines_append first, later]
      simp only [withoutEmptyEnd, List.getLast?_cons_cons]
      split <;> simp

theorem getElem?_withoutEmptyEnd {all : List Text} {index : Nat} {line : Text}
    (found : (withoutEmptyEnd all)[index]? = some line) :
    all[index]? = some line ∧ (index + 1 = all.length → line ≠ []) := by
  unfold withoutEmptyEnd at found
  split at found
  next blank =>
    rw [List.getElem?_dropLast] at found
    split at found
    next below => exact ⟨found, fun last => by omega⟩
    next => simp at found
  next spoken =>
    refine ⟨found, ?_⟩
    rintro last rfl
    rw [List.getLast?_eq_getElem?, ← last, Nat.add_sub_cancel] at spoken
    exact spoken found

theorem withoutEmptyEnd_of_getElem? {all : List Text} {index : Nat} {line : Text}
    (found : all[index]? = some line) (kept : index + 1 = all.length → line ≠ []) :
    (withoutEmptyEnd all)[index]? = some line := by
  unfold withoutEmptyEnd
  split
  next blank =>
    have below : index < all.length := (List.getElem?_eq_some_iff.mp found).1
    rw [List.getElem?_dropLast, if_pos ?_]
    · exact found
    · by_contra last
      have isLast : index + 1 = all.length := by omega
      rw [List.getLast?_eq_getElem?, ← isLast, Nat.add_sub_cancel, found] at blank
      exact kept isLast (Option.some.inj blank)
  next => exact found

end Text

namespace Padding

variable {lines padded : List Text} {place : Nat → Nat}

theorem last_of_last (padding : Padding lines padded place) {index : Nat}
    (inside : index < lines.length) (last : place index + 1 = padded.length) :
    index + 1 = lines.length := by
  by_contra more
  have next : index + 1 < lines.length := by omega
  rcases padding.kept (index + 1) lines[index + 1] (List.getElem?_eq_getElem next) with
    ⟨filler, _, found⟩
  have below := (List.getElem?_eq_some_iff.mp found).1
  have later := padding.ordered (Nat.lt_add_one index)
  omega

/-- Joining and splitting lines again keeps the padding. -/
theorem withoutEmptyEnd (padding : Padding lines padded place) :
    Padding (Text.withoutEmptyEnd lines) (Text.withoutEmptyEnd padded) place where
  ordered := padding.ordered
  kept := by
    intro index line found
    rcases Text.getElem?_withoutEmptyEnd found with ⟨found, spoken⟩
    rcases padding.kept index line found with ⟨filler, fills, there⟩
    refine ⟨filler, fills, Text.withoutEmptyEnd_of_getElem? there ?_⟩
    intro last empty
    have inside := (List.getElem?_eq_some_iff.mp found).1
    exact spoken (padding.last_of_last inside last) (List.append_eq_nil_iff.mp empty).1
  inserted := by
    intro index line found unplaced
    rcases Text.getElem?_withoutEmptyEnd found with ⟨found, _⟩
    by_cases placed : ∃ source, source < lines.length ∧ place source = index
    · -- The line of the script that stands here has been lost at the end, so it was empty.
      rcases placed with ⟨source, inside, rfl⟩
      have there : lines[source]? = some lines[source] := List.getElem?_eq_getElem inside
      have empty : lines[source] = [] := by
        by_contra spoken
        have stays := Text.withoutEmptyEnd_of_getElem? there fun _ => spoken
        exact unplaced source (List.getElem?_eq_some_iff.mp stays).1 rfl
      rcases padding.kept source _ there with ⟨filler, fills, same⟩
      rw [found, empty, List.nil_append, Option.some.injEq] at same
      exact same ▸ fills.isInert
    · exact padding.inserted index line found
        fun source inside same => placed ⟨source, inside, same⟩

end Padding

/-! ## Numbered lines -/

/-- A line says what another one says at its place. -/
structure Line.Echoes (place : Nat → Nat) (line other : Line) : Prop where
  text : stripStatement other.text = stripStatement line.text
  index : other.index = place line.index

/-- Lines that echo others, one by one, with lines between them of which nothing is left. -/
inductive Padded (place : Nat → Nat) : List Line → List Line → Prop
  | nil : Padded place [] []
  | inert {lines others : List Line} {other : Line} (nothing : stripStatement other.text = [])
      (rest : Padded place lines others) : Padded place lines (other :: others)
  | kept {lines others : List Line} {line other : Line} (echoes : line.Echoes place other)
      (rest : Padded place lines others) : Padded place (line :: lines) (other :: others)

/-- What is left of a script and of its padded form, when their next lines have given numbers. -/
structure Padding.From (place : Nat → Nat) (first start : Nat) (lines padded : List Text) :
    Prop where
  ordered : StrictMono place
  kept : ∀ index line, lines[index]? = some line → ∃ filler offset, IsFiller filler ∧
    place (first + index) = start + offset ∧ padded[offset]? = some (line ++ filler)
  inserted : ∀ offset line, padded[offset]? = some line →
    (∀ index, index < lines.length → place (first + index) ≠ start + offset) → IsInert line

namespace Padding.From

variable {place : Nat → Nat} {first start : Nat} {lines padded : List Text} {line other : Text}

theorem of_kept (left : From place first start (line :: lines) (other :: padded))
    (here : place first = start) : From place (first + 1) (start + 1) lines padded where
  ordered := left.ordered
  kept := by
    intro index text there
    rcases left.kept (index + 1) text there with ⟨filler, offset, fills, same, found⟩
    have behind : place first < place (first + (index + 1)) := left.ordered (by omega)
    obtain ⟨offset, rfl⟩ : ∃ before, offset = before + 1 := ⟨offset - 1, by omega⟩
    refine ⟨filler, offset, fills, ?_, found⟩
    rw [Nat.add_right_comm, Nat.add_assoc, same]
    omega
  inserted := by
    intro offset text there unplaced
    refine left.inserted (offset + 1) text there ?_
    intro index inside
    cases index with
    | zero =>
      rw [Nat.add_zero, here]
      omega
    | succ index =>
      have apart := unplaced index (Nat.lt_of_succ_lt_succ inside)
      rw [Nat.add_right_comm, Nat.add_assoc] at apart
      omega

theorem of_inserted (left : From place first start lines (other :: padded))
    (later : ∀ index, index < lines.length → start < place (first + index)) :
    From place first (start + 1) lines padded where
  ordered := left.ordered
  kept := by
    intro index text there
    rcases left.kept index text there with ⟨filler, offset, fills, same, found⟩
    have behind := later index (List.getElem?_eq_some_iff.mp there).1
    obtain ⟨offset, rfl⟩ : ∃ before, offset = before + 1 := ⟨offset - 1, by omega⟩
    exact ⟨filler, offset, fills, by omega, found⟩
  inserted := by
    intro offset text there unplaced
    refine left.inserted (offset + 1) text there ?_
    intro index inside same
    exact unplaced index inside (by omega)

/-- The next line of a padded script is one of the script, or has been inserted in front of all
that are left. -/
theorem head (left : From place first start lines (other :: padded)) :
    (∃ line rest filler, lines = line :: rest ∧ place first = start ∧ IsFiller filler ∧
      other = line ++ filler) ∨
    ∀ index, index < lines.length → start < place (first + index) := by
  cases lines with
  | nil => exact .inr (by simp)
  | cons line rest =>
    rcases left.kept 0 line rfl with ⟨filler, offset, fills, same, found⟩
    cases offset with
    | zero => exact .inl ⟨line, rest, filler, rfl, same, fills, by simpa using found⟩
    | succ offset =>
      right
      intro index _
      have least := left.ordered.monotone (Nat.le_add_right first index)
      rw [Nat.add_zero] at same
      omega

theorem numbered (left : From place first start lines padded) :
    Padded place (numberLines first lines) (numberLines start padded) := by
  induction padded generalizing first start lines with
  | nil =>
    cases lines with
    | nil => exact .nil
    | cons line lines =>
      rcases left.kept 0 line rfl with ⟨_, _, _, _, found⟩
      simp at found
  | cons other padded ih =>
    rcases left.head with ⟨line, rest, filler, rfl, here, fills, rfl⟩ | later
    · exact .kept ⟨stripStatement_append fills line, here.symm⟩ (ih (left.of_kept here))
    · have inert : IsInert other :=
        left.inserted 0 other rfl fun index inside => Nat.ne_of_gt (later index inside)
      exact .inert inert.stripStatement (ih (left.of_inserted later))

end Padding.From

theorem Padding.numberLines {lines padded : List Text} {place : Nat → Nat}
    (padding : Padding lines padded place) :
    Padded place (numberLines 0 lines) (numberLines 0 padded) := by
  have left : From place 0 0 lines padded := by
    constructor
    · exact padding.ordered
    · intro index line found
      rcases padding.kept index line found with ⟨filler, fills, there⟩
      exact ⟨filler, place index, fills, by simp, there⟩
    · intro offset line found unplaced
      refine padding.inserted offset line found ?_
      intro source inside
      simpa using unplaced source inside
  exact left.numbered

end StepScript

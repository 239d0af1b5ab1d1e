import StepScript.Proofs.Padding.Script

/-!
# Blocks of padded scripts

A block is cut out of lines by their braces and by what they say, so the block of a padded script
is that of the script, padded.
-/

namespace StepScript

namespace Padded

variable {place : Nat → Nat} {lines others : List Line}

theorem append (padded : Padded place lines others) {more otherMore : List Line}
    (behind : Padded place more otherMore) :
    Padded place (lines ++ more) (others ++ otherMore) := by
  induction padded with
  | nil => exact behind
  | inert nothing rest ih => exact .inert nothing ih
  | kept echoes rest ih => exact .kept echoes ih

/-- Lines that begin with the echo of a line, unless there are none. -/
inductive Meets (place : Nat → Nat) : List Line → List Line → Prop
  | nil : Meets place [] []
  | cons {line other : Line} {rest otherRest : List Line} (echoes : line.Echoes place other)
      (padded : Padded place rest otherRest) : Meets place (line :: rest) (other :: otherRest)

/-- Behind braces and empty lines stands the same line. -/
theorem dropBraces (padded : Padded place lines others) :
    Meets place (lines.dropWhile fun line => isBraceOnly line.text)
      (others.dropWhile fun line => isBraceOnly line.text) := by
  induction padded with
  | nil => exact .nil
  | inert nothing rest ih =>
    rw [List.dropWhile_cons, if_pos (isBraceOnly_of_strip_nil nothing)]
    exact ih
  | @kept lines others line other echoes rest ih =>
    rw [List.dropWhile_cons, List.dropWhile_cons, isBraceOnly_of_strip_eq echoes.text]
    split
    · exact ih
    · exact .cons echoes rest

end Padded

namespace Block

variable {place : Nat → Nat}

/-- Comments need no test of their own inside a block: nothing is left of them. -/
theorem interiorStatement?_eq (line : Line) : interiorStatement? line =
    if isBraceOnly line.text then none else some ⟨line.index, Text.trim line.text⟩ := by
  have brace : isBraceOnly (Text.trim line.text) = isBraceOnly line.text :=
    isBraceOnly_of_strip_eq (stripStatement_trim line.text)
  simp only [interiorStatement?]
  rw [brace]
  by_cases alone : isBraceOnly line.text = true
  · simp [alone]
  · have spoken : Text.after? ['/', '/'] (Text.trim line.text) = none := by
      cases found : Text.after? ['/', '/'] (Text.trim line.text) with
      | none => rfl
      | some words =>
        have inert : IsInert (Text.trim line.text) :=
          ⟨[], _, rfl, by simp, .inr ⟨words, Text.eq_append_of_after? found⟩⟩
        exact absurd (brace ▸ isBraceOnly_of_strip_nil inert.stripStatement) alone
    simp [alone, spoken]

theorem padded_interior {lines others : List Line} (padded : Padded place lines others) :
    Padded place (lines.filterMap interiorStatement?) (others.filterMap interiorStatement?) := by
  induction padded with
  | nil => exact .nil
  | inert nothing rest ih =>
    rw [List.filterMap_cons_none]
    · exact ih
    · simp [interiorStatement?_eq, isBraceOnly_of_strip_nil nothing]
  | @kept lines others line other echoes rest ih =>
    by_cases brace : isBraceOnly line.text = true
    · rw [List.filterMap_cons_none, List.filterMap_cons_none]
      · exact ih
      · simp [interiorStatement?_eq, isBraceOnly_of_strip_eq echoes.text, brace]
      · simp [interiorStatement?_eq, brace]
    · rw [List.filterMap_cons_some (b := ⟨line.index, Text.trim line.text⟩),
        List.filterMap_cons_some (b := ⟨other.index, Text.trim other.text⟩)]
      · refine .kept ⟨?_, echoes.index⟩ ih
        rw [stripStatement_trim, stripStatement_trim, echoes.text]
      · simp [interiorStatement?_eq, isBraceOnly_of_strip_eq echoes.text, brace]
      · simp [interiorStatement?_eq, brace]

/-- The statements behind the brace of a header stand on the line of the header. -/
theorem padded_numbered (texts : List Text) (index : Nat) :
    Padded place (texts.map fun text => ⟨index, text⟩)
      (texts.map fun text => ⟨place index, text⟩) := by
  induction texts with
  | nil => exact .nil
  | cons text texts ih => exact .kept ⟨rfl, rfl⟩ ih

/-- Padded lines split where the lines themselves do. -/
structure SplitsAlike (place : Nat → Nat) (split other : List Line × Line × List Line) :
    Prop where
  before : Padded place split.1 other.1
  close : split.2.1.Echoes place other.2.1
  after : Padded place split.2.2 other.2.2

/-- The end of a block lies on a line that is not inserted. -/
theorem splitAtClose?_padded {lines others : List Line} (padded : Padded place lines others)
    {depth : Int} {opened : Bool} (unclosed : (opened && decide (depth ≤ 0)) = false) :
    splitAtClose? depth opened lines = none ∧ splitAtClose? depth opened others = none ∨
      ∃ split other, splitAtClose? depth opened lines = some split ∧
        splitAtClose? depth opened others = some other ∧ SplitsAlike place split other := by
  induction padded generalizing depth opened with
  | nil => exact .inl ⟨rfl, rfl⟩
  | @inert lines others other nothing rest ih =>
    have balance : braceBalance other.text = 0 := by simp [braceBalance, nothing]
    have passed : splitAtClose? depth opened (other :: others) =
        (splitAtClose? depth opened others).map fun split => (other :: split.1, split.2) := by
      simp [splitAtClose?, balance, nothing, unclosed]
    rw [passed]
    rcases ih unclosed with ⟨nowhere, nowhereToo⟩ | ⟨split, found, same, sameToo, alike⟩
    · exact .inl ⟨nowhere, by rw [nowhereToo]; rfl⟩
    · exact .inr ⟨split, (other :: found.1, found.2), same, by rw [sameToo]; rfl,
        ⟨.inert nothing alike.before, alike.close, alike.after⟩⟩
  | @kept lines others line other echoes rest ih =>
    have balance : braceBalance other.text = braceBalance line.text := by
      simp only [braceBalance, echoes.text]
    simp only [splitAtClose?, balance, echoes.text]
    split
    next => exact .inr ⟨_, _, rfl, rfl, ⟨.nil, echoes, rest⟩⟩
    next goesOn =>
      rcases ih (Bool.eq_false_of_not_eq_true goesOn) with
        ⟨nowhere, nowhereToo⟩ | ⟨split, found, same, sameToo, alike⟩
      · exact .inl ⟨by rw [nowhere]; rfl, by rw [nowhereToo]; rfl⟩
      · exact .inr ⟨(line :: split.1, split.2), (other :: found.1, found.2), by rw [same]; rfl,
          by rw [sameToo]; rfl, ⟨.kept echoes alike.before, alike.close, alike.after⟩⟩

/-- Blocks are alike if one is the other one padded. -/
structure Alike (place : Nat → Nat) (block other : Block) : Prop where
  body : Padded place block.body other.body
  after : Padded place block.after other.after

/-- The block behind a padded header is that behind the header, padded; it is closed if the latter
is. -/
theorem extract_padded {header otherHeader : Line} {following others : List Line}
    (echoes : header.Echoes place otherHeader) (padded : Padded place following others) :
    (∃ text other, extract header following = .error (.unclosedBlock text) ∧
      extract otherHeader others = .error (.unclosedBlock other)) ∨
    ∃ block other, extract header following = .ok block ∧ extract otherHeader others = .ok other ∧
      Alike place block other := by
  have balance : braceBalance otherHeader.text = braceBalance header.text := by
    simp only [braceBalance, echoes.text]
  have first : ∀ closed, headerStatements otherHeader.text closed =
      headerStatements header.text closed := by
    intro closed
    simp only [headerStatements, echoes.text]
  have within : ∀ {inside otherInside : List Line}, Padded place inside otherInside → ∀ closed,
      Padded place
        ((headerStatements header.text closed).map (fun text => ⟨header.index, text⟩) ++
          inside.filterMap interiorStatement?)
        ((headerStatements otherHeader.text closed).map (fun text => ⟨otherHeader.index, text⟩) ++
          otherInside.filterMap interiorStatement?) := by
    intro inside otherInside padded closed
    rw [first, echoes.index]
    exact (padded_numbered _ _).append (padded_interior padded)
  simp only [extract, splitAtClose?, balance, echoes.text, Bool.false_or, Int.zero_add]
  by_cases closed : ((stripStatement header.text).contains '\x7b' &&
      decide (braceBalance header.text ≤ 0)) = true
  · simp only [if_pos closed]
    exact .inr ⟨_, _, rfl, rfl, within .nil true, padded⟩
  · simp only [if_neg closed]
    rcases splitAtClose?_padded padded (Bool.eq_false_of_not_eq_true closed) with
      ⟨nowhere, nowhereToo⟩ | ⟨split, found, same, sameToo, alike⟩
    · rw [nowhere, nowhereToo]
      exact .inl ⟨_, _, rfl, rfl⟩
    · rw [same, sameToo]
      exact .inr ⟨_, _, rfl, rfl, within alike.before false, alike.after⟩

end Block

end StepScript

import StepScript.Proofs.Alignment.Block

/-!
# Lines in front of aligned lines

A line of a script is outermost if it lies in no block of a loop in front of it.  What two scripts
hold alike in front of an outermost line is aligned, if what they hold from there on is
(`Aligned.append`).
-/

namespace StepScript

theorem index_of_mem_numberLines {start : Nat} {texts : List Text} {line : Line}
    (member : line ∈ numberLines start texts) :
    start ≤ line.index ∧ line.index < start + texts.length := by
  have inside : line.index ∈ (numberLines start texts).map Line.index := List.mem_map_of_mem member
  rwa [index_numberLines, List.mem_range'_1] at inside

namespace Block

variable {depth : Int} {opened : Bool} {lines rest otherRest : List Line}

/-- A block that is not closed in front of some lines is closed on one of them. -/
theorem mem_of_splitAtClose?_append {before after : List Line} {close : Line}
    (unclosed : splitAtClose? depth opened lines = none)
    (split : splitAtClose? depth opened (lines ++ rest) = some (before, close, after)) :
    close ∈ rest := by
  induction lines generalizing depth opened before with
  | nil =>
    rw [List.nil_append] at split
    rw [eq_append_of_splitAtClose? split]
    exact List.mem_append_right before List.mem_cons_self
  | cons line lines ih =>
    rw [List.cons_append, splitAtClose?] at split
    rw [splitAtClose?] at unclosed
    dsimp only at split unclosed
    split at split
    next closed =>
      rw [if_pos closed] at unclosed
      cases unclosed
    next goesOn =>
      rw [if_neg goesOn, Option.map_eq_none_iff] at unclosed
      simp only [Option.map_eq_some_iff, Prod.mk.injEq, Prod.exists] at split
      obtain ⟨inner, last, behind, found, _, rfl, rfl⟩ := split
      exact ih unclosed found

/-- Whether a block is closed at all is told by the lines behind. -/
theorem splitAtClose?_append_eq_none
    (later : ∀ depth opened, splitAtClose? depth opened rest = none →
      splitAtClose? depth opened otherRest = none)
    (unclosed : splitAtClose? depth opened (lines ++ rest) = none) :
    splitAtClose? depth opened (lines ++ otherRest) = none := by
  induction lines generalizing depth opened with
  | nil => exact later depth opened unclosed
  | cons line lines ih =>
    rw [List.cons_append, splitAtClose?] at unclosed ⊢
    dsimp only at unclosed ⊢
    split at unclosed
    next => cases unclosed
    next goesOn =>
      rw [if_neg goesOn, Option.map_eq_none_iff]
      exact ih (Option.map_eq_none_iff.mp unclosed)

variable {header : Line} {following : List Line}

/-- A block that ends in front of some lines does not depend on them. -/
theorem extract_of_append {block : Block} {limit : Nat} (beyond : ∀ line ∈ rest, limit ≤ line.index)
    (extracted : extract header (following ++ rest) = .ok block) (ends : block.endIndex < limit) :
    ∃ inner, extract header following = .ok inner ∧
      block = { inner with after := inner.after ++ rest } := by
  cases found : extract header following with
  | ok inner =>
    refine ⟨inner, rfl, ?_⟩
    exact (Except.ok.inj ((extract_append found rest).symm.trans extracted)).symm
  | error cause =>
    unfold extract at found extracted
    split at found
    next unclosed =>
      split at extracted
      · cases extracted
      next before close after split =>
        cases extracted
        have member := mem_of_splitAtClose?_append unclosed split
        exact absurd (beyond close member) (Nat.not_le_of_lt ends)
    next => cases found

theorem extract_unclosed {cause : Fault}
    (later : ∀ depth opened, splitAtClose? depth opened rest = none →
      splitAtClose? depth opened otherRest = none)
    (unclosed : extract header (following ++ rest) = .error cause) :
    extract header (following ++ otherRest) = .error cause := by
  unfold extract at unclosed ⊢
  split at unclosed
  next nowhere =>
    rw [← List.cons_append] at nowhere ⊢
    rw [splitAtClose?_append_eq_none later nowhere]
    exact unclosed
  next => cases unclosed

/-! ## Outermost lines -/

/-- A line that lies in no block.  Every loop in front of it ends in front of it, if it ends at all
and lies in no block itself. -/
def Outermost (lines : List Text) (position : Nat) : Prop :=
  ∀ index < position, Outermost lines index → ∀ text header block, lines[index]? = some text →
    classify text = .ok (.loop header) → extractFrom lines index text = .ok block →
    block.endIndex < position

/-- Lines that are passed one by one and block by block, up to those behind them or to a block that
is not closed. -/
inductive Passed (rest : List Line) : List Line → Prop
  | nil : Passed rest []
  | line {line : Line} {lines : List Line}
      (flat : ∀ header, classify line.text ≠ .ok (.loop header)) (behind : Passed rest lines) :
      Passed rest (line :: lines)
  | block {line : Line} {lines : List Line} {header : LoopHeader} {block : Block}
      (classified : classify line.text = .ok (.loop header))
      (extracted : extract line lines = .ok block) (behind : Passed rest block.after) :
      Passed rest (line :: lines)
  | unclosed {line : Line} {lines : List Line} {header : LoopHeader} {cause : Fault}
      (classified : classify line.text = .ok (.loop header))
      (unclosed : extract line (lines ++ rest) = .error cause) : Passed rest (line :: lines)

section Outermost

variable {texts : List Text} {position : Nat} {text : Text}

theorem outermost_zero (texts : List Text) : Outermost texts 0 := by
  rw [Outermost]
  exact fun index before => absurd before (Nat.not_lt_zero index)

theorem Outermost.next (outermost : Outermost texts position)
    (here : texts[position]? = some text)
    (flat : ∀ header, classify text ≠ .ok (.loop header)) : Outermost texts (position + 1) := by
  rw [Outermost]
  intro index before outer other header block there classified extracted
  obtain earlier | rfl := Nat.lt_succ_iff_lt_or_eq.mp before
  · rw [Outermost] at outermost
    exact Nat.lt_succ_of_lt
      (outermost index earlier outer other header block there classified extracted)
  · cases here.symm.trans there
    exact absurd classified (flat header)

theorem Outermost.behind {header : LoopHeader} {block : Block}
    (outermost : Outermost texts position) (here : texts[position]? = some text)
    (classified : classify text = .ok (.loop header))
    (extracted : extractFrom texts position text = .ok block) :
    Outermost texts (block.endIndex + 1) := by
  rw [Outermost]
  intro index before outer other otherHeader otherBlock there classifiedToo extractedToo
  obtain earlier | rfl | later := Nat.lt_trichotomy index position
  · rw [Outermost] at outermost
    have ends := outermost index earlier outer other otherHeader otherBlock there classifiedToo
      extractedToo
    have sorted := pairwise_numberLines position (text :: texts.drop (position + 1))
    have reaches := header_le_endIndex (List.pairwise_map.mpr sorted) extracted
    exact Nat.lt_succ_of_lt (Nat.lt_of_lt_of_le ends reaches)
  · cases here.symm.trans there
    cases extracted.symm.trans extractedToo
    exact Nat.lt_succ_self _
  · -- the line lies in the block, so it is not outermost
    rw [Outermost] at outer
    have ends := outer position later outermost text header block here classified extracted
    exact absurd (Nat.le_of_lt_succ before) (Nat.not_le_of_lt ends)

theorem passed_of_outermost {front back : List Text}
    (limit : Outermost (front ++ back) front.length) {start : Nat} (within : start ≤ front.length)
    (outermost : Outermost (front ++ back) start) :
    Passed (numberLines front.length back) (numberLines start (front.drop start)) := by
  induction left : front.length - start using Nat.strong_induction_on generalizing start with
  | _ left ih =>
    subst left
    obtain inside | rfl := Nat.lt_or_eq_of_le within
    · have here : front[start]? = some front[start] := List.getElem?_eq_getElem inside
      have there : (front ++ back)[start]? = some front[start] := by
        rw [List.getElem?_append_left inside, here]
      have following : numberLines (start + 1) ((front ++ back).drop (start + 1)) =
          numberLines (start + 1) (front.drop (start + 1)) ++ numberLines front.length back := by
        rw [List.drop_append_of_le_length inside, numberLines_append, List.length_drop,
          Nat.add_sub_cancel' inside]
      rw [numberLines_drop here]
      by_cases opens : ∃ header, classify front[start] = .ok (.loop header)
      · obtain ⟨header, classified⟩ := opens
        cases extracted : extractFrom (front ++ back) start front[start] with
        | error cause =>
          rw [extractFrom, following] at extracted
          exact .unclosed classified extracted
        | ok block =>
          have behind := outermost.behind there classified extracted
          have ends : block.endIndex < front.length := by
            rw [Outermost] at limit
            exact limit start inside outermost _ header block there classified extracted
          have beyond : ∀ line ∈ numberLines front.length back, front.length ≤ line.index :=
            fun line member => (index_of_mem_numberLines member).1
          rw [extractFrom, following] at extracted
          obtain ⟨inner, cut, rfl⟩ := extract_of_append beyond extracted ends
          obtain ⟨before, close, lines, last, _⟩ := split_of_extract cut
          obtain ⟨index, after⟩ := of_numberLines_eq ((numberLines_drop here start).trans lines)
          rw [← last] at index after
          have count : start + (before.length + 1) = inner.endIndex + 1 := by omega
          rw [List.drop_drop, count] at after
          apply Passed.block classified cut
          rw [after]
          exact ih _ (by omega) ends behind rfl
      · have flat : ∀ header, classify front[start] ≠ .ok (.loop header) :=
          fun header classified => opens ⟨header, classified⟩
        exact .line flat (ih _ (by omega) inside (outermost.next there flat) rfl)
    · rw [List.drop_length]
      exact .nil

end Outermost

end Block

namespace Aligned

variable {alignment : Alignment} {lines rest otherRest : List Line}

/-- The statements of a body that both scripts hold. -/
theorem of_same {awaited : Bool} (stands : ∀ line ∈ lines, alignment.stands line.index line.index)
    (fixes : ∀ line ∈ lines, alignment.Fixes line.index line.index) :
    Aligned alignment true awaited lines lines := by
  induction lines generalizing awaited with
  | nil => exact .nil
  | cons line lines ih =>
    rw [List.forall_mem_cons] at stands fixes
    exact .kept (.of_fixes rfl stands.1 fixes.1) (fun _ _ => rfl) (ih stands.2 fixes.2)

/-- Lines that two scripts hold alike are aligned, if those behind them are.  The block of a loop
among them may reach behind them only if it is closed in neither script. -/
theorem append {awaited : Bool} {limit : Nat} (passed : Block.Passed rest lines)
    (below : ∀ line ∈ lines, line.index < limit)
    (stands : ∀ index < limit, alignment.stands index index)
    (fixes : ∀ index < limit, alignment.Fixes index index)
    (unclosed : ∀ depth opened, Block.splitAtClose? depth opened rest = none →
      Block.splitAtClose? depth opened otherRest = none)
    (aligned : ∀ awaited, Aligned alignment false awaited rest otherRest) :
    Aligned alignment false awaited (lines ++ rest) (lines ++ otherRest) := by
  induction passed generalizing awaited with
  | nil => exact aligned awaited
  | @line line lines flat behind ih =>
    rw [List.forall_mem_cons] at below
    exact .kept (.of_fixes rfl (stands _ below.1) (fixes _ below.1))
      (fun header classified => absurd classified (flat header)) (ih below.2)
  | @block line lines header block classified extracted behind ih =>
    have inside : ∀ statement ∈ block.body, statement.index < limit := by
      intro statement member
      obtain ⟨source, within, same⟩ :=
        List.mem_map.mp (Block.index_of_mem_body extracted statement member)
      exact same ▸ below source within
    have later : ∀ line ∈ block.after, line.index < limit := fun line member =>
      below line (List.mem_cons_of_mem _ ((Block.after_isSuffix extracted).subset member))
    exact .loop classified classified (stands _ (below line List.mem_cons_self))
      (Block.extract_append extracted rest) (Block.extract_append extracted otherRest)
      (.of_same (fun statement member => stands _ (inside statement member))
        fun statement member => fixes _ (inside statement member))
      (ih later)
  | @unclosed line lines header cause classified endless =>
    exact .unclosed classified classified (stands _ (below line List.mem_cons_self)) endless
      (Block.extract_unclosed unclosed endless) (.refl cause)

end Aligned

end StepScript

import StepScript.Proofs.Alignment.Line
import StepScript.Proofs.Block.Layout
import StepScript.Proofs.Run.Continuation

/-!
# Blocks of aligned lines

Lines that are aligned one by one are aligned as lines of a script: the blocks that are cut out of
them hold what is aligned (`Woven.aligned`).  For this an extra line must hold no brace, and it must
not stand where a condition waits: behind a line with a condition, or behind a line whose block
begins with one.
-/

namespace StepScript

/-- Whether a condition may wait behind a line: the line holds one, or anything at all behind an
opening brace. -/
def mayAwait (line : Text) : Bool :=
  isCondition line ||
    (Text.afterFirst? '\x7b' (stripStatement line)).any fun tail => !(Text.trim tail).isEmpty

/-- Lines that are aligned one by one, with extra lines between them.  `awaited` tells whether a
condition in front of them may still wait for its consequence. -/
inductive Woven (alignment : Alignment) : (awaited : Bool) → List Line → List Line → Prop
  | nil {awaited : Bool} : Woven alignment awaited [] []
  | extra {lines others : List Line} {other : Line} {text : Text}
      (allowed : alignment.extra = true)
      (unrecognized : classify other.text = .ok (.unrecognized text))
      (unbraced : Block.Unbraced (stripStatement other.text))
      (rest : Woven alignment false lines others) : Woven alignment false lines (other :: others)
  | kept {awaited : Bool} {lines others : List Line} {line other : Line}
      (same : stripStatement other.text = stripStatement line.text)
      (stands : alignment.stands line.index other.index)
      (fixes : alignment.Fixes line.index other.index)
      (rest : Woven alignment (if isBraceOnly line.text then awaited else mayAwait line.text)
        lines others) :
      Woven alignment awaited (line :: lines) (other :: others)

/-- Whether a condition may wait behind some lines, given whether one may wait in front of them. -/
def awaitedBehind (awaited : Bool) (lines : List Text) : Bool :=
  lines.foldl (fun awaited line => if isBraceOnly line then awaited else mayAwait line) awaited

/-- It is the last line that holds more than a brace for which a condition may wait. -/
theorem awaitedBehind_eq (awaited : Bool) (lines : List Text) :
    awaitedBehind awaited lines =
      ((lines.filter fun line => !isBraceOnly line).getLast?).elim awaited mayAwait := by
  induction lines using List.reverseRecOn with
  | nil => rfl
  | append_singleton lines line ih =>
    rw [awaitedBehind, List.foldl_concat, ← awaitedBehind, ih]
    cases alone : isBraceOnly line <;> simp [alone]

section Text

variable {line other : Text}

theorem isCondition_of_strip_eq (same : stripStatement other = stripStatement line) :
    isCondition other = isCondition line := by
  have essence := classify_essence_eq same
  unfold isCondition
  cases found : classify line with
  | error cause =>
    cases otherFound : classify other with
    | error otherCause => rfl
    | ok otherStatement => simp [found, otherFound, Except.map] at essence
  | ok statement =>
    cases otherFound : classify other with
    | error otherCause => simp [found, otherFound, Except.map] at essence
    | ok otherStatement =>
      rw [found, otherFound] at essence
      cases statement <;> cases otherStatement <;>
        simp_all [Except.map, Statement.essence]

/-- A line of the same essence as an unrecognized one is not recognized either. -/
theorem exists_unrecognized_of_strip_eq {text : Text}
    (same : stripStatement other = stripStatement line)
    (unrecognized : classify line = .ok (.unrecognized text)) :
    ∃ otherText, classify other = .ok (.unrecognized otherText) := by
  have essence := classify_essence_eq same
  rw [unrecognized] at essence
  cases found : classify other with
  | error cause => simp [found, Except.map] at essence
  | ok statement =>
    rw [found] at essence
    cases statement <;> simp_all [Except.map, Statement.essence]

/-- A line that is not recognized holds more than a brace, if it holds none. -/
theorem isBraceOnly_of_unrecognized {text : Text}
    (unrecognized : classify line = .ok (.unrecognized text))
    (unbraced : Block.Unbraced (stripStatement line)) : isBraceOnly line = false := by
  unfold isBraceOnly
  split
  next nothing =>
    obtain ⟨statement, said, silent⟩ := classify_of_strip_nil nothing
    cases unrecognized.symm.trans said
    cases silent
  next char single =>
    rw [single, Block.Unbraced, List.mem_singleton, List.mem_singleton] at unbraced
    simp [Ne.symm unbraced.1, Ne.symm unbraced.2]
  next => rfl

end Text

namespace Line.Aligns

variable {alignment : Alignment} {line other : Line}

theorem of_fixes (same : stripStatement other.text = stripStatement line.text)
    (stands : alignment.stands line.index other.index)
    (fixes : alignment.Fixes line.index other.index) : line.Aligns alignment other :=
  ⟨same, stands, fun _ _ _ => fixes⟩

theorem classify_loop {header : LoopHeader} (aligns : line.Aligns alignment other)
    (classified : StepScript.classify line.text = .ok (.loop header)) :
    StepScript.classify other.text = .ok (.loop header) := by
  apply classify_of_strip_eq aligns.text classified
  intro found essence
  cases found <;> first | exact essence | cases essence

end Line.Aligns

namespace Aligned

variable {alignment : Alignment} {inBody awaited : Bool} {lines others : List Line}

/-- What is aligned while a condition waits is aligned whether one waits or not. -/
theorem of_awaited (aligned : Aligned alignment inBody true lines others) (awaited : Bool) :
    Aligned alignment inBody awaited lines others := by
  cases awaited with
  | true => exact aligned
  | false => exact aligned.relax

/-- Where a condition may wait for a line, it does so or not. -/
theorem of_mayAwait {line : Text}
    (aligned : Aligned alignment inBody (mayAwait line) lines others) :
    Aligned alignment inBody (isCondition line) lines others := by
  cases condition : isCondition line with
  | false => exact aligned.relax
  | true =>
    rw [mayAwait, condition, Bool.true_or] at aligned
    exact aligned

/-- The statements on a header, in front of those below it. -/
theorem append_same {index otherIndex : Nat} (stands : alignment.stands index otherIndex)
    (fixes : alignment.Fixes index otherIndex) (texts : List Text)
    (aligned : Aligned alignment true true lines others) :
    Aligned alignment true awaited (texts.map (⟨index, ·⟩) ++ lines)
      (texts.map (⟨otherIndex, ·⟩) ++ others) := by
  induction texts generalizing awaited with
  | nil => exact aligned.of_awaited awaited
  | cons text texts ih => exact .kept (.of_fixes rfl stands fixes) (fun _ _ => rfl) ih

end Aligned

theorem Text.exists_blanks (text : Text) :
    ∃ front behind, text = front ++ trim text ++ behind ∧
      ∀ char ∈ front ++ behind, isBlank char = true := by
  obtain ⟨behind, whole, blanks⟩ := dropEnd_append isBlank (trimStart text)
  refine ⟨text.takeWhile isBlank, behind, ?_, ?_⟩
  · rw [List.append_assoc, trim, trimEnd, ← whole, trimStart, List.takeWhile_append_dropWhile]
  · exact List.forall_mem_append.mpr ⟨fun _ => List.mem_takeWhile_imp, blanks⟩

/-- Nothing but blanks is trimmed away. -/
theorem Text.isBlank_of_trim_eq_nil {text : Text} (nothing : trim text = []) :
    ∀ char ∈ text, isBlank char = true := by
  obtain ⟨front, behind, whole, blanks⟩ := exists_blanks text
  rw [nothing, List.append_nil] at whole
  rw [whole]
  exact blanks

theorem headerStatements_of_not_mayAwait {header : Text} (idle : mayAwait header = false) :
    Block.headerStatements header false = [] := by
  rw [mayAwait, Bool.or_eq_false_iff] at idle
  unfold Block.headerStatements
  cases found : Text.afterFirst? '\x7b' (stripStatement header) with
  | none => rfl
  | some tail =>
    have nothing : Text.trim tail = [] := by simpa [found] using idle.2
    simp only [Block.splitAtEach_eq_splitOn, Bool.false_eq_true, if_false]
    exact (Block.Row.blank (Text.isBlank_of_trim_eq_nil nothing)).parts_eq

namespace Woven

variable {alignment : Alignment} {awaited : Bool} {lines others : List Line}

theorem relax (woven : Woven alignment awaited lines others) :
    Woven alignment false lines others := by
  induction woven with
  | nil => exact .nil
  | extra allowed unrecognized unbraced rest => exact .extra allowed unrecognized unbraced rest
  | @kept awaited lines others line other same stands fixes rest ih =>
    apply Woven.kept same stands fixes
    cases alone : isBraceOnly line.text with
    | true => exact ih
    | false =>
      rw [alone] at rest
      exact rest

/-- The same lines are woven at other places, in front of woven lines. -/
theorem of_same {start otherStart : Nat} {rest otherRest : List Line} (texts : List Text)
    (stands : ∀ index < texts.length, alignment.stands (start + index) (otherStart + index))
    (fixes : ∀ index < texts.length, alignment.Fixes (start + index) (otherStart + index))
    (woven : Woven alignment (awaitedBehind awaited texts) rest otherRest) :
    Woven alignment awaited (numberLines start texts ++ rest)
      (numberLines otherStart texts ++ otherRest) := by
  induction texts generalizing start otherStart awaited with
  | nil => exact woven
  | cons text texts ih =>
    refine @kept alignment awaited _ _ ⟨start, text⟩ ⟨otherStart, text⟩ rfl
      (stands 0 (Nat.succ_pos _)) (fixes 0 (Nat.succ_pos _)) ?_
    apply ih
    · intro index inside
      rw [Nat.add_right_comm start, Nat.add_right_comm otherStart]
      exact stands (index + 1) (Nat.succ_lt_succ inside)
    · intro index inside
      rw [Nat.add_right_comm start, Nat.add_right_comm otherStart]
      exact fixes (index + 1) (Nat.succ_lt_succ inside)
    · exact woven

/-- The statements inside of blocks of woven lines are aligned. -/
theorem interior (woven : Woven alignment awaited lines others) :
    Aligned alignment true awaited (lines.filterMap Block.interiorStatement?)
      (others.filterMap Block.interiorStatement?) := by
  induction woven with
  | nil => exact .nil
  | @extra lines others other text allowed unrecognized unbraced rest ih =>
    have spoken := isBraceOnly_of_unrecognized unrecognized unbraced
    have kept : Block.interiorStatement? other = some ⟨other.index, Text.trim other.text⟩ := by
      simp [Block.interiorStatement?_eq, spoken]
    obtain ⟨trimmed, said⟩ :=
      exists_unrecognized_of_strip_eq (stripStatement_trim other.text) unrecognized
    rw [List.filterMap_cons_some kept]
    exact .extra allowed said ih
  | @kept awaited lines others line other same stands fixes rest ih =>
    cases alone : isBraceOnly line.text with
    | true =>
      rw [alone] at ih
      rw [List.filterMap_cons_none, List.filterMap_cons_none]
      · exact ih
      · simp [Block.interiorStatement?_eq, isBraceOnly_of_strip_eq same, alone]
      · simp [Block.interiorStatement?_eq, alone]
    | false =>
      rw [alone] at ih
      rw [List.filterMap_cons_some (b := ⟨line.index, Text.trim line.text⟩),
        List.filterMap_cons_some (b := ⟨other.index, Text.trim other.text⟩)]
      · have trimmed : Line.Aligns alignment ⟨line.index, Text.trim line.text⟩
            ⟨other.index, Text.trim other.text⟩ := by
          refine ⟨?_, stands, fun _ _ _ => fixes⟩
          rw [stripStatement_trim, stripStatement_trim, same]
        apply Aligned.kept trimmed (fun _ _ => rfl)
        rw [isBraceOnly_of_strip_eq (stripStatement_trim line.text), alone,
          isCondition_of_strip_eq (stripStatement_trim line.text)]
        exact ih.of_mayAwait
      · simp [Block.interiorStatement?_eq, isBraceOnly_of_strip_eq same, alone]
      · simp [Block.interiorStatement?_eq, alone]

/-- Woven lines are split behind lines that are aligned, or nowhere. -/
theorem split (woven : Woven alignment awaited lines others) {depth : Int} {opened : Bool}
    (unclosed : ¬(opened && decide (depth ≤ 0)) = true) :
    Block.splitAtClose? depth opened lines = none ∧
        Block.splitAtClose? depth opened others = none ∨
      ∃ inner close after otherInner otherClose otherAfter,
        Block.splitAtClose? depth opened lines = some (inner, close, after) ∧
        Block.splitAtClose? depth opened others = some (otherInner, otherClose, otherAfter) ∧
        Woven alignment awaited inner otherInner ∧ Woven alignment false after otherAfter := by
  induction woven generalizing depth opened with
  | nil => exact .inl ⟨rfl, rfl⟩
  | @extra lines others other text allowed unrecognized unbraced rest ih =>
    rw [Block.splitAtClose?_cons others unbraced unclosed]
    obtain ⟨nowhere, nowhereToo⟩ | ⟨inner, close, after, otherInner, otherClose, otherAfter, found,
      foundToo, woven, behind⟩ := ih unclosed
    · exact .inl ⟨nowhere, by rw [nowhereToo]; rfl⟩
    · exact .inr ⟨_, _, _, _, _, _, found, by rw [foundToo]; rfl,
        .extra allowed unrecognized unbraced woven, behind⟩
  | @kept awaited lines others line other same stands fixes rest ih =>
    have balance : Block.braceBalance other.text = Block.braceBalance line.text := by
      simp only [Block.braceBalance, same]
    simp only [Block.splitAtClose?, balance, same]
    split
    next => exact .inr ⟨_, _, _, _, _, _, rfl, rfl, .nil, rest.relax⟩
    next goesOn =>
      obtain ⟨nowhere, nowhereToo⟩ | ⟨inner, close, after, otherInner, otherClose, otherAfter,
        found, foundToo, woven, behind⟩ := ih goesOn
      · exact .inl ⟨by rw [nowhere]; rfl, by rw [nowhereToo]; rfl⟩
      · exact .inr ⟨_, _, _, _, _, _, by rw [found]; rfl, by rw [foundToo]; rfl,
          .kept same stands fixes woven, behind⟩

/-- Woven lines behind aligned headers have aligned blocks, or none of them is closed. -/
theorem extract {header other : Line}
    (same : stripStatement other.text = stripStatement header.text)
    (stands : alignment.stands header.index other.index)
    (fixes : alignment.Fixes header.index other.index)
    (woven : Woven alignment (mayAwait header.text) lines others) :
    (∃ cause otherCause, Block.extract header lines = .error cause ∧
      Block.extract other others = .error otherCause ∧ cause.Alike otherCause) ∨
    ∃ block otherBlock, Block.extract header lines = .ok block ∧
      Block.extract other others = .ok otherBlock ∧
      Aligned alignment true false block.body otherBlock.body ∧
      Woven alignment false block.after otherBlock.after := by
  have balance : Block.braceBalance other.text = Block.braceBalance header.text := by
    simp only [Block.braceBalance, same]
  have first : ∀ closed, Block.headerStatements other.text closed =
      Block.headerStatements header.text closed := by
    intro closed
    simp only [Block.headerStatements, same]
  simp only [Block.extract, Block.splitAtClose?, balance, same, Bool.false_or, Int.zero_add, first]
  by_cases closed : ((stripStatement header.text).contains '\x7b' &&
      decide (Block.braceBalance header.text ≤ 0)) = true
  · simp only [if_pos closed]
    exact .inr ⟨_, _, rfl, rfl, Aligned.append_same stands fixes _ .nil, woven.relax⟩
  · simp only [if_neg closed]
    obtain ⟨nowhere, nowhereToo⟩ | ⟨inner, close, after, otherInner, otherClose, otherAfter, found,
      foundToo, inside, behind⟩ := woven.split closed
    · rw [nowhere, nowhereToo]
      exact .inl ⟨_, _, rfl, rfl, rfl, rfl⟩
    · rw [found, foundToo]
      refine .inr ⟨_, _, rfl, rfl, ?_, behind⟩
      cases awaits : mayAwait header.text with
      | true =>
        rw [awaits] at inside
        exact Aligned.append_same stands fixes _ inside.interior
      | false =>
        rw [awaits] at inside
        have idle := headerStatements_of_not_mayAwait awaits
        simp only [List.isEmpty_cons, idle, List.map_nil, List.nil_append]
        exact inside.interior

theorem aligned (woven : Woven alignment awaited lines others) :
    Aligned alignment false awaited lines others := by
  induction size : others.length using Nat.strong_induction_on
    generalizing awaited lines others with
  | _ size ih =>
    cases woven with
    | nil => exact .nil
    | @extra lines others other text allowed unrecognized unbraced rest =>
      subst size
      exact .extra allowed unrecognized (ih _ (Nat.lt_succ_self _) rest rfl)
    | @kept awaited lines others line other same stands fixes rest =>
      subst size
      have aligns : line.Aligns alignment other := .of_fixes same stands fixes
      by_cases opens : ∃ header, classify line.text = .ok (.loop header)
      · obtain ⟨header, classified⟩ := opens
        have classifiedToo := aligns.classify_loop classified
        rw [isBraceOnly_of_loop classified] at rest
        obtain ⟨cause, otherCause, unclosed, unclosedToo, alike⟩ |
          ⟨block, otherBlock, extracted, extractedToo, body, after⟩ :=
          extract same stands fixes rest
        · exact .unclosed classified classifiedToo stands unclosed unclosedToo alike
        · have shorter := Block.length_after_extract extractedToo
          exact .loop classified classifiedToo stands extracted extractedToo body
            (ih _ (Nat.lt_succ_of_le shorter) after rfl)
      · apply Aligned.kept aligns fun header classified => absurd ⟨header, classified⟩ opens
        have later := ih _ (Nat.lt_succ_self _) rest rfl
        cases alone : isBraceOnly line.text with
        | true =>
          rw [alone] at later
          exact later
        | false =>
          rw [alone] at later
          exact later.of_mayAwait

end Woven

end StepScript

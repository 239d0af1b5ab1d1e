import StepScript.Proofs.Alignment.Outermost
import StepScript.Proofs.Alignment.Run
import StepScript.Proofs.Run.Highlight
import StepScript.Proofs.Statement.Header

/-!
# Loops on one line

A loop written on one line runs as it does with each of its statements on a line of its own
(`Engine.run_onOneLine`).  Both layouts hold the same loop header and the same body, so the scripts
around them are aligned: the one line stands for all lines of the other layout.
-/

namespace StepScript

namespace Block

/-! ## Layouts -/

/-- Statements in a row, each between a blank and a semicolon. -/
def rowOf (statements : List Text) : Text :=
  statements.flatMap (fun statement => ' ' :: (statement ++ [';'])) ++ [' ']

/-- A loop on one line. -/
def onOneLine (header : Text) (statements : List Text) : Text :=
  header ++ ' ' :: '\x7b' :: (rowOf statements ++ ['\x7d'])

/-- A loop with each statement on a line of its own. -/
def onSeveralLines (header : Text) (statements : List Text) : List Text :=
  (header ++ [' ', '\x7b']) :: (statements.map (· ++ [';']) ++ [['\x7d']])

/-- A line with a loop header that ends with its parenthesis. -/
structure IsHeader (text : Text) (header : LoopHeader) : Prop where
  classified : classify text = .ok (.loop header)
  last : text.getLast? = some ')'
  unbraced : Unbraced text
  uncommented : ¬['/', '/'] <:+: text

/-- A statement that can stand in a row, and declares no constant. -/
structure IsMovable (statement : Text) : Prop where
  spoken : Text.trim statement ≠ []
  undivided : ';' ∉ statement
  unbraced : Unbraced statement
  uncommented : ¬['/', '/'] <:+: statement
  oneLine : '\n' ∉ statement
  varying : ∀ name expression,
    classify statement ≠ .ok (.declaration name expression .constWord)

/-! ## Statements -/

namespace IsMovable

variable {statement : Text}

theorem isSimple (movable : IsMovable statement) : IsSimple (Text.trim statement) := by
  obtain ⟨front, behind, whole, _⟩ := Text.exists_blanks statement
  have inside : Text.trim statement <:+: statement := ⟨front, behind, whole.symm⟩
  exact
    { spoken := movable.spoken
      trimmed := Text.trim_trim statement
      unbraced := ⟨fun member => movable.unbraced.1 (inside.subset member),
        fun member => movable.unbraced.2 (inside.subset member)⟩
      undivided := fun member => movable.undivided (inside.subset member)
      uncommented := fun marker => movable.uncommented (marker.trans inside) }

theorem stripStatement (movable : IsMovable statement) :
    stripStatement statement = Text.trim statement := by
  rw [← stripStatement_trim, movable.isSimple.stripStatement]

theorem stripStatement_closed (movable : IsMovable statement) :
    StepScript.stripStatement (statement ++ [';']) = Text.trim statement := by
  have semicolon : IsFiller [';'] := .of_padding (by simp [Text.isPadding])
  rw [stripStatement_append semicolon, movable.stripStatement]

end IsMovable

section Statements

variable {statements : List Text} (movable : ∀ statement ∈ statements, IsMovable statement)

include movable

theorem row_rowOf : Row (rowOf statements) (statements.map Text.trim) := by
  induction statements with
  | nil => exact .blank (List.forall_mem_singleton.mpr rfl)
  | cons statement statements ih =>
    rw [List.forall_mem_cons] at movable
    obtain ⟨front, behind, whole, blanks⟩ := Text.exists_blanks statement
    have padded : ∀ char ∈ ' ' :: front ++ behind, Text.isBlank char = true :=
      List.forall_mem_cons.mpr ⟨rfl, blanks⟩
    have first := Row.single movable.1.isSimple (' ' :: front) behind padded
    rw [List.cons_append, List.cons_append, ← whole] at first
    have row := first.joined (ih movable.2)
    simpa [rowOf] using row

theorem uncommented_rowOf : Text.Uncommented (rowOf statements ++ ['\x7d']) := by
  induction statements with
  | nil => exact .of_plain (by simp [rowOf])
  | cons statement statements ih =>
    rw [List.forall_mem_cons] at movable
    have behind := (Text.Uncommented.of_no_marker movable.1.uncommented).join ';' []
      (ih movable.2) (by simp)
    have row := Text.Uncommented.nil.join ' ' [] behind (by simp)
    simpa [rowOf] using row

theorem oneLine_rowOf : '\n' ∉ rowOf statements := by
  have apart : ∀ statement ∈ statements, '\n' ∉ statement :=
    fun statement member => (movable statement member).oneLine
  simpa [rowOf] using apart

theorem rest_onSeveralLines :
    Rest (statements.map (· ++ [';']) ++ [['\x7d']]) (statements.map Text.trim) [] := by
  induction statements with
  | nil =>
    have reads : stripStatement ['\x7d'] = [] ++ '\x7d' :: [] := rfl
    exact .close reads (.blank (by simp)) ⟨List.not_mem_nil, List.not_mem_nil⟩
  | cons statement statements ih =>
    rw [List.forall_mem_cons] at movable
    have stripped := movable.1.stripStatement_closed
    rw [List.map_cons, List.map_cons, List.cons_append, ← stripped]
    exact .own (stripped ▸ movable.1.isSimple) (ih movable.2)

/-- The lines of the statements hold no braces. -/
theorem unbraced_of_movable (start : Nat) :
    ∀ line ∈ numberLines start (statements.map (· ++ [';'])),
      Unbraced (stripStatement line.text) := by
  intro line member
  have inside := List.mem_map_of_mem (f := Line.text) member
  rw [map_text_numberLines] at inside
  obtain ⟨statement, within, same⟩ := List.mem_map.mp inside
  rw [← same, (movable statement within).stripStatement_closed]
  exact (movable statement within).isSimple.unbraced

/-- Lines that say the statements declare no constants. -/
theorem varying_of_movable {lines : List Line} (told : said lines = statements.map Text.trim) :
    ∀ line ∈ lines, ∀ name expression,
      classify line.text ≠ .ok (.declaration name expression .constWord) := by
  intro line member name expression declared
  have inside : stripStatement line.text ∈ said lines := List.mem_map_of_mem member
  rw [told] at inside
  obtain ⟨statement, spoken, same⟩ := List.mem_map.mp inside
  rw [← (movable statement spoken).stripStatement] at same
  apply (movable statement spoken).varying name expression
  apply classify_of_strip_eq same declared
  intro found essence
  cases found <;> first | exact essence | cases essence

end Statements

/-! ## Headers -/

namespace IsHeader

variable {text tail : Text} {header : LoopHeader}

theorem tailed (starts : IsHeader text header) (tail : Text) :
    Pattern.Tailed tail (Text.trimStart text) (Text.trimStart (text ++ tail)) :=
  have whole : Pattern.Tailed tail text (text ++ tail) := ⟨rfl, starts.last, starts.unbraced.1⟩
  whole.trimStart

theorem uncommented_trimStart (starts : IsHeader text header) :
    Text.Uncommented (Text.trimStart text) :=
  .of_no_marker fun marker =>
    starts.uncommented (marker.trans (List.dropWhile_suffix _).isInfix)

theorem unbraced_trimStart (starts : IsHeader text header) : Unbraced (Text.trimStart text) :=
  have inside : Text.trimStart text ⊆ text := (List.dropWhile_suffix _).subset
  ⟨fun member => starts.unbraced.1 (inside member), fun member => starts.unbraced.2 (inside member)⟩

/-- Nothing but the blanks in front of it are stripped from a header. -/
theorem stripped (starts : IsHeader text header) : stripStatement text = Text.trimStart text := by
  have last := (starts.tailed []).last
  rw [← stripStatement_trimStart]
  refine Form.stripStatement_eq (Text.trimStart_trimStart text) starts.uncommented_trimStart ?_
  rw [← List.dropLast_append_getLast? ')' last]
  exact Text.dropEnd_concat (by decide) _

theorem stripped_append (starts : IsHeader text header) {inside : Text} {last : Char}
    (uncommented : Text.Uncommented inside) (ends : ('\x7b' :: inside).getLast? = some last)
    (visible : Text.isPadding last = false) :
    stripStatement (text ++ ' ' :: '\x7b' :: inside) =
      Text.trimStart text ++ ' ' :: '\x7b' :: inside := by
  have tailed := starts.tailed (' ' :: '\x7b' :: inside)
  rw [← stripStatement_trimStart, tailed.same]
  refine Form.stripStatement_eq ?_ ?_ ?_
  · rw [← tailed.same, Text.trimStart_trimStart]
  · exact starts.uncommented_trimStart.join ' ' ['\x7b'] uncommented (by simp)
  · have whole : (Text.trimStart text ++ ' ' :: '\x7b' :: inside).getLast? = some last := by
      rw [List.getLast?_append_cons, List.getLast?_cons_cons, ends]
    rw [← List.dropLast_append_getLast? last whole]
    exact Text.dropEnd_concat visible _

/-- With a block behind it, a header opens the same loop. -/
theorem classify_append (starts : IsHeader text header) (block : Pattern.OpensBlock tail)
    (stripped : stripStatement (text ++ tail) = Text.trimStart text ++ tail) :
    classify (text ++ tail) = .ok (.loop header) := by
  have tailed := starts.tailed tail
  have found := loop?_of_classify starts.classified
  rw [starts.stripped] at found
  apply classify_of_loop?
  rw [stripped, Pattern.loop?_append tailed.last tailed.unbraced block, found]

theorem stripped_opened (starts : IsHeader text header) :
    stripStatement (text ++ [' ', '\x7b']) = Text.trimStart text ++ [' ', '\x7b'] :=
  starts.stripped_append .nil rfl (by decide)

theorem classify_opened (starts : IsHeader text header) :
    classify (text ++ [' ', '\x7b']) = .ok (.loop header) :=
  starts.classify_append .opened starts.stripped_opened

theorem unbraced_front (starts : IsHeader text header) :
    Unbraced (Text.trimStart text ++ [' ']) := by
  simpa [Unbraced] using starts.unbraced_trimStart

theorem braceBalance_opened (starts : IsHeader text header) :
    braceBalance (text ++ [' ', '\x7b']) = 1 := by
  have plain := starts.unbraced_trimStart
  simp [braceBalance, starts.stripped_opened, List.count_eq_zero.mpr plain.1,
    List.count_eq_zero.mpr plain.2]

end IsHeader

/-! ## Blocks of the layouts -/

/-- What is extracted from a flat block in a script, and which lines it stands on. -/
theorem LaidOut.extract {header : Text} {more front own last : List Text}
    (laid : LaidOut (header :: more) front own last) (start : Nat) (back : List Text) :
    ∃ block, Block.extract ⟨start, header⟩ (numberLines (start + 1) (more ++ back)) = .ok block ∧
      block.after = numberLines (start + 1 + more.length) back ∧
      said block.body = front ++ own ∧
      ∀ line ∈ block.body, start ≤ line.index ∧ line.index ≤ start + more.length := by
  obtain ⟨inner, close, split, ends, first, interior⟩ :=
    laid.exists_split start (numberLines (start + 1 + more.length) back)
  have extracted : Block.extract ⟨start, header⟩ (numberLines (start + 1) (more ++ back)) =
      .ok ⟨front.map (⟨start, ·⟩) ++ inner.tail.filterMap interiorStatement?, close.index,
        numberLines (start + 1 + more.length) back⟩ := by
    rw [numberLines_append, Block.extract, split, ← first]
  refine ⟨_, extracted, rfl, ?_, ?_⟩
  · rw [said, List.map_append, ← said, ← said, said_of_simple laid.isSimple_front, interior]
  · intro line member
    have sorted := pairwise_numberLines start (header :: (more ++ back))
    have between := index_between_of_mem_body (List.pairwise_map.mpr sorted) extracted line member
    dsimp only at between
    omega

/-- A block is closed nowhere if neither a line nor those behind it close it. -/
theorem splitAtClose?_cons_eq_none {depth : Int} {opened : Bool} {line : Line}
    {rest : List Line} :
    splitAtClose? depth opened (line :: rest) = none ↔
      ¬((opened || (stripStatement line.text).contains '\x7b') &&
        decide (depth + braceBalance line.text ≤ 0)) = true ∧
      splitAtClose? (depth + braceBalance line.text)
        (opened || (stripStatement line.text).contains '\x7b') rest = none := by
  rw [splitAtClose?]
  dsimp only
  split
  next closed => exact iff_of_false (Option.some_ne_none _) fun both => both.1 closed
  next goesOn => rw [Option.map_eq_none_iff, and_iff_right goesOn]

section Layouts

variable {text : Text} {header : LoopHeader} {statements : List Text}
  (starts : IsHeader text header) (movable : ∀ statement ∈ statements, IsMovable statement)

include starts movable

theorem stripStatement_onOneLine : stripStatement (onOneLine text statements) =
    Text.trimStart text ++ ' ' :: '\x7b' :: (rowOf statements ++ ['\x7d']) := by
  have ends : ('\x7b' :: (rowOf statements ++ ['\x7d'])).getLast? = some '\x7d' := by
    rw [← List.cons_append, List.getLast?_concat]
  exact starts.stripped_append (uncommented_rowOf movable) ends (by decide)

theorem classify_onOneLine : classify (onOneLine text statements) = .ok (.loop header) :=
  starts.classify_append (.closed (oneLine_rowOf movable) (row_rowOf movable).unbraced.1)
    (stripStatement_onOneLine starts movable)

theorem laidOut_onOneLine :
    LaidOut [onOneLine text statements] (statements.map Text.trim) [] [] := by
  have reads : stripStatement (onOneLine text statements) =
      Text.trimStart text ++ [' '] ++ '\x7b' :: (rowOf statements ++ '\x7d' :: []) := by
    rw [stripStatement_onOneLine starts movable, List.append_assoc]
    rfl
  exact .oneLine reads starts.unbraced_front (row_rowOf movable)
    ⟨List.not_mem_nil, List.not_mem_nil⟩

theorem laidOut_onSeveralLines :
    LaidOut (onSeveralLines text statements) [] (statements.map Text.trim) [] := by
  have reads : stripStatement (text ++ [' ', '\x7b']) =
      Text.trimStart text ++ [' '] ++ '\x7b' :: [] := by
    rw [starts.stripped_opened, List.append_assoc]
    rfl
  exact .opened reads starts.unbraced_front (.blank (by simp)) (rest_onSeveralLines movable)

theorem braceBalance_onOneLine : braceBalance (onOneLine text statements) = 0 := by
  have plain := starts.unbraced_trimStart
  have row := (row_rowOf movable).unbraced
  simp [braceBalance, stripStatement_onOneLine starts movable, List.count_eq_zero.mpr plain.1,
    List.count_eq_zero.mpr plain.2, List.count_eq_zero.mpr row.1, List.count_eq_zero.mpr row.2]

/-- Where a block is not closed on a loop on one line or behind it, it is not closed either if the
loop stands on several lines. -/
theorem splitAtClose?_onSeveralLines {depth : Int} {opened : Bool} {position : Nat}
    {back : List Text} (unclosed : splitAtClose? depth opened
      (numberLines position (onOneLine text statements :: back)) = none) :
    splitAtClose? depth opened
      (numberLines position (onSeveralLines text statements ++ back)) = none := by
  have opens : (stripStatement (onOneLine text statements)).contains '\x7b' = true := by
    simp [stripStatement_onOneLine starts movable]
  have opensToo : (stripStatement (text ++ [' ', '\x7b'])).contains '\x7b' = true := by
    simp [starts.stripped_opened]
  have closing : braceBalance ['\x7d'] = -1 := by decide
  have goesOn {depth : Int} (positive : 0 < depth) : ¬(true && decide (depth ≤ 0)) = true := by
    simpa using positive
  rw [numberLines, splitAtClose?_cons_eq_none] at unclosed
  dsimp only at unclosed
  rw [braceBalance_onOneLine starts movable, opens, Bool.or_true, Int.add_zero] at unclosed
  obtain ⟨deep, behind⟩ := unclosed
  have positive : 0 < depth := by simpa using deep
  rw [onSeveralLines, List.cons_append, numberLines, splitAtClose?_cons_eq_none]
  dsimp only
  rw [starts.braceBalance_opened, opensToo, Bool.or_true]
  have deeper : 0 < depth + 1 := by omega
  refine ⟨goesOn deeper, ?_⟩
  rw [List.append_assoc, numberLines_append,
    splitAtClose?_passes _ (unbraced_of_movable movable _) (goesOn deeper),
    Option.map_eq_none_iff, List.singleton_append, numberLines, splitAtClose?_cons_eq_none]
  dsimp only
  rw [closing, Int.add_neg_cancel_right, Bool.true_or]
  refine ⟨goesOn positive, ?_⟩
  rw [Nat.add_assoc (position + 1), numberLines_shift, splitAtClose?_shift, behind]
  rfl

end Layouts

end Block

/-! ## Alignment of the layouts -/

/-- One line stands for itself and as many lines behind it.  Every other line stands for itself. -/
def Alignment.gathering (position count : Nat) : Alignment where
  stands index other := index = min other position + (other - (position + count))
  extra := false

theorem fixes_gathering {position count index other : Nat}
    (stands : (Alignment.gathering position count).stands index other) (apart : index ≠ position) :
    (Alignment.gathering position count).Fixes index other := by
  intro source target standsToo
  dsimp only [Alignment.gathering] at stands standsToo
  omega

theorem aligned_behind (position count : Nat) (back : List Text) :
    Aligned (.gathering position count) false false (numberLines (position + 1) back)
      (numberLines (position + 1 + count) back) := by
  have stands (index : Nat) : (Alignment.gathering position count).stands (position + 1 + index)
      (position + 1 + count + index) := by
    dsimp only [Alignment.gathering]
    omega
  have woven := @Woven.of_same _ false _ _ [] [] back (fun index _ => stands index)
    (fun index _ => fixes_gathering (stands index) (by omega)) .nil
  rw [List.append_nil, List.append_nil] at woven
  exact woven.aligned

/-- Statements without constants are aligned if they say the same, wherever they stand. -/
theorem Aligned.of_said {alignment : Alignment} {awaited : Bool} {lines others : List Line}
    (same : Block.said others = Block.said lines)
    (stands : ∀ line ∈ lines, ∀ other ∈ others, alignment.stands line.index other.index)
    (varying : ∀ line ∈ lines, ∀ name expression,
      classify line.text ≠ .ok (.declaration name expression .constWord)) :
    Aligned alignment true awaited lines others := by
  induction lines generalizing awaited others with
  | nil =>
    obtain rfl : others = [] := List.map_eq_nil_iff.mp same
    exact .nil
  | cons line lines ih =>
    obtain ⟨other, others, rfl, text, rest⟩ := List.map_eq_cons_iff.mp same
    rw [List.forall_mem_cons] at varying
    have aligns : line.Aligns alignment other :=
      { text
        stands := stands line List.mem_cons_self other List.mem_cons_self
        fixes := fun name expression declared => absurd declared (varying.1 name expression) }
    apply Aligned.kept aligns fun _ _ => rfl
    apply ih rest _ varying.2
    intro left member right memberToo
    exact stands left (List.mem_cons_of_mem line member) right
      (List.mem_cons_of_mem other memberToo)

namespace Block

section Layouts

variable {text : Text} {header : LoopHeader} {statements : List Text}

theorem aligned_onOneLine (starts : IsHeader text header)
    (movable : ∀ statement ∈ statements, IsMovable statement) (position : Nat) (back : List Text)
    (awaited : Bool) :
    Aligned (.gathering position (statements.length + 1)) false awaited
      (numberLines position (onOneLine text statements :: back))
      (numberLines position (onSeveralLines text statements ++ back)) := by
  obtain ⟨block, extracted, after, body, within⟩ :=
    (laidOut_onOneLine starts movable).extract position back
  obtain ⟨otherBlock, extractedToo, afterToo, bodyToo, withinToo⟩ :=
    (laidOut_onSeveralLines starts movable).extract position back
  have count : (statements.map (· ++ [';']) ++ [['\x7d']]).length = statements.length + 1 := by
    simp
  rw [List.length_nil, Nat.add_zero] at after within
  rw [count] at afterToo withinToo
  rw [List.append_nil] at body
  refine .loop (classify_onOneLine starts movable) starts.classify_opened ?_ extracted extractedToo
    (.of_said ?_ ?_ (varying_of_movable movable body)) ?_
  · dsimp only [Alignment.gathering]
    omega
  · rw [bodyToo, body, List.nil_append]
  · intro line member other memberToo
    have bounds := within line member
    have boundsToo := withinToo other memberToo
    dsimp only [Alignment.gathering]
    omega
  · rw [after, afterToo]
    exact aligned_behind position (statements.length + 1) back

end Layouts

end Block

/-- Snapshots that show the same, with as many entries in their logs. -/
structure Snapshot.Matches (shown other : Snapshot) : Prop extends Agrees shown other where
  log : other.log.length = shown.log.length

/-- Results that show the same and end alike, with as many entries in the logs. -/
structure RunResult.Matches (result other : RunResult) : Prop where
  snapshots : List.Forall₂ Snapshot.Matches result.snapshots other.snapshots
  outcome : result.outcome.Agrees other.outcome

theorem RunResult.Aligns.toMatches {alignment : Alignment} {result other : RunResult}
    (aligns : result.Aligns alignment other) (plain : alignment.extra = false) :
    result.Matches other where
  snapshots := aligns.snapshots.imp fun _ _ shows => ⟨shows.toAgrees, shows.log plain⟩
  outcome := aligns.outcome

/-- An outermost loop stands on one line of a script, and on several lines in its place in another
script.  Its statements declare no constants.  Then both runs show the same and end alike. -/
theorem Engine.run_onOneLine {engine other ended otherEnded : Engine} {script otherScript : Text}
    {front back : List Text} {text : Text} {header : LoopHeader} {statements : List Text}
    {speed otherSpeed : Option Value} {result otherResult : RunResult}
    (starts : Block.IsHeader text header)
    (movable : ∀ statement ∈ statements, Block.IsMovable statement)
    (lines : Text.lines script = front ++ Block.onOneLine text statements :: back)
    (linesToo : Text.lines otherScript = front ++ (Block.onSeveralLines text statements ++ back))
    (outermost : Block.Outermost (Text.lines script) front.length)
    (limits : other.limits = engine.limits) (accepted : Dialect.violation? script = none)
    (acceptedToo : Dialect.violation? otherScript = none)
    (returned : engine.run script speed (fun _ => false) = (ended, .ok result))
    (returnedToo : other.run otherScript otherSpeed (fun _ => false) =
      (otherEnded, .ok otherResult)) :
    result.Matches otherResult := by
  have aligned : Aligned (.gathering front.length (statements.length + 1)) false false
      (numberLines 0 (Text.lines script)) (numberLines 0 (Text.lines otherScript)) := by
    rw [lines] at outermost
    have passed := Block.passed_of_outermost outermost (Nat.zero_le _) (Block.outermost_zero _)
    rw [List.drop_zero] at passed
    have below : ∀ line ∈ numberLines 0 front, line.index < front.length := by
      intro line member
      simpa using (index_of_mem_numberLines member).2
    have stands (index : Nat) (before : index < front.length) :
        (Alignment.gathering front.length (statements.length + 1)).stands index index := by
      dsimp only [Alignment.gathering]
      omega
    rw [lines, linesToo, numberLines_append, numberLines_append, Nat.zero_add]
    exact .append passed below stands
      (fun index before => fixes_gathering (stands index before) (Nat.ne_of_lt before))
      (fun depth opened unclosed => Block.splitAtClose?_onSeveralLines starts movable unclosed)
      (Block.aligned_onOneLine starts movable front.length back)
  have aligns := run_aligned aligned limits accepted acceptedToo returned returnedToo
    fun extra => absurd extra Bool.false_ne_true
  exact aligns.toMatches rfl

/-- A loop with one round, on one line and on three. -/
theorem Engine.run_onOneLine_of_declaration :
    (∃ header, Block.IsHeader "for (let i = 0; i < 1; i++)".toList header) ∧
    (∀ statement ∈ ["let a = []".toList], Block.IsMovable statement) ∧
    Text.lines "for (let i = 0; i < 1; i++) \x7b let a = []; \x7d".toList =
      [] ++ Block.onOneLine "for (let i = 0; i < 1; i++)".toList ["let a = []".toList] :: [] ∧
    Text.lines "for (let i = 0; i < 1; i++) \x7b\nlet a = [];\n\x7d".toList =
      [] ++ (Block.onSeveralLines "for (let i = 0; i < 1; i++)".toList ["let a = []".toList] ++
        []) ∧
    Block.Outermost
      (Text.lines "for (let i = 0; i < 1; i++) \x7b let a = []; \x7d".toList) 0 ∧
    ∃ ended otherEnded result otherResult,
      new.run "for (let i = 0; i < 1; i++) \x7b let a = []; \x7d".toList none (fun _ => false) =
        (ended, .ok result) ∧
      new.run "for (let i = 0; i < 1; i++) \x7b\nlet a = [];\n\x7d".toList none
        (fun _ => false) = (otherEnded, .ok otherResult) ∧
      result.snapshots.map (fun shown => (shown.event, shown.highlight, shown.array)) =
        [(.bind, some 0, none), (.declare, some 0, some (['a'], [])),
          (.increment, some 0, some (['a'], [])), (.completed, none, some (['a'], []))] ∧
      result.Matches otherResult := by
  have starts : Block.IsHeader "for (let i = 0; i < 1; i++)".toList
      ⟨['i'], ['0'], ['i'], .less, ['1'], ['+', '+'], 1⟩ :=
    { classified := by cbv
      last := rfl
      unbraced := by decide +kernel
      uncommented := by decide +kernel }
  have said : classify "let a = []".toList = .ok (.declaration ['a'] ['[', ']'] .letWord) := by cbv
  have movable : ∀ statement ∈ ["let a = []".toList], Block.IsMovable statement := by
    rw [List.forall_mem_singleton]
    exact
      { spoken := by decide +kernel
        undivided := by decide +kernel
        unbraced := by decide +kernel
        uncommented := by decide +kernel
        oneLine := by decide +kernel
        varying := by
          intro name expression declared
          cases said.symm.trans declared }
  have lines : Text.lines "for (let i = 0; i < 1; i++) \x7b let a = []; \x7d".toList =
      [] ++ Block.onOneLine "for (let i = 0; i < 1; i++)".toList ["let a = []".toList] :: [] := by
    cbv
  have linesToo : Text.lines "for (let i = 0; i < 1; i++) \x7b\nlet a = [];\n\x7d".toList =
      [] ++ (Block.onSeveralLines "for (let i = 0; i < 1; i++)".toList ["let a = []".toList] ++
        []) := by cbv
  have accepted : Dialect.violation?
      "for (let i = 0; i < 1; i++) \x7b let a = []; \x7d".toList = none := by cbv
  have acceptedToo : Dialect.violation?
      "for (let i = 0; i < 1; i++) \x7b\nlet a = [];\n\x7d".toList = none := by cbv
  have extracted : Block.extract
      ⟨0, Block.onOneLine "for (let i = 0; i < 1; i++)".toList ["let a = []".toList]⟩ [] =
      .ok ⟨[⟨0, "let a = []".toList⟩], 0, []⟩ := rfl
  have extractedToo : Block.extract ⟨0, "for (let i = 0; i < 1; i++)".toList ++ [' ', '\x7b']⟩
      [⟨1, "let a = [];".toList⟩, ⟨2, ['\x7d']⟩] = .ok ⟨[⟨1, "let a = [];".toList⟩], 2, []⟩ := rfl
  obtain ⟨ended, result, returned, shows⟩ := run_of_declaringLoop (congrArg (numberLines 0) lines)
    accepted (Block.classify_onOneLine starts movable) extracted said
  obtain ⟨otherEnded, otherResult, returnedToo, _⟩ :=
    run_of_declaringLoop (congrArg (numberLines 0) linesToo) acceptedToo starts.classify_opened
      extractedToo (by cbv)
  have outermost := Block.outermost_zero
    (Text.lines "for (let i = 0; i < 1; i++) \x7b let a = []; \x7d".toList)
  exact ⟨⟨_, starts⟩, movable, lines, linesToo, outermost, ended, otherEnded, result, otherResult,
    returned, returnedToo, shows, run_onOneLine starts movable lines linesToo outermost rfl accepted
      acceptedToo returned returnedToo⟩

end StepScript

import StepScript.Proofs.Block
import StepScript.Proofs.Padding.Block
import StepScript.Proofs.Statement.Recognition

/-!
# The extent of a block

A block ends at the first line at which a brace has been opened and every brace opened since its
header is closed, and it has no end if there is no such line.  Its body is what the header says
behind its first brace, and then each line in between that says something (`Block.extract_exact`).
-/

namespace StepScript

/-! ## Numbered lines -/

theorem getElem?_numberLines (start : Nat) (lines : List Text) (place : Nat) :
    (numberLines start lines)[place]? = lines[place]?.map fun text => ⟨start + place, text⟩ := by
  induction lines generalizing start place with
  | nil => rfl
  | cons line rest ih =>
    cases place with
    | zero => rfl
    | succ place =>
      rw [numberLines, List.getElem?_cons_succ, List.getElem?_cons_succ, ih]
      congr 1
      funext text
      rw [Nat.add_assoc, Nat.add_comm 1]

theorem take_numberLines (start : Nat) (lines : List Text) (count : Nat) :
    (numberLines start lines).take count = numberLines start (lines.take count) := by
  induction lines generalizing start count with
  | nil => simp [numberLines]
  | cons line rest ih =>
    cases count with
    | zero => rfl
    | succ count => simp [numberLines, ih]

theorem drop_numberLines (start : Nat) (lines : List Text) (count : Nat) :
    (numberLines start lines).drop count = numberLines (start + count) (lines.drop count) := by
  induction lines generalizing start count with
  | nil => simp [numberLines]
  | cons line rest ih =>
    cases count with
    | zero => rfl
    | succ count =>
      rw [numberLines, List.drop_succ_cons, List.drop_succ_cons, ih, Nat.add_right_comm,
        Nat.add_assoc]

theorem map_text_numberLines (start : Nat) (lines : List Text) :
    (numberLines start lines).map Line.text = lines := by
  induction lines generalizing start with
  | nil => rfl
  | cons line rest ih => rw [numberLines, List.map_cons, ih]

theorem pairwise_numberLines (start : Nat) (lines : List Text) :
    (numberLines start lines).Pairwise fun line later => line.index < later.index := by
  rw [← List.pairwise_map, index_numberLines]
  exact List.pairwise_lt_range'

/-- A line whose index is counted from elsewhere. -/
def Line.shift (offset : Nat) (line : Line) : Line :=
  ⟨line.index + offset, line.text⟩

theorem numberLines_shift (start offset : Nat) (lines : List Text) :
    numberLines (start + offset) lines = (numberLines start lines).map (Line.shift offset) := by
  induction lines generalizing start with
  | nil => rfl
  | cons line rest ih =>
    rw [numberLines, numberLines, List.map_cons, ← ih, Nat.add_right_comm]
    rfl

namespace Block

/-! ## Where a block ends -/

/-- The lines of a script from one index through another. -/
def linesFrom (lines : List Text) (first last : Nat) : List Text :=
  (lines.drop first).take (last + 1 - first)

/-- The braces that lines open less those that they close, comments aside. -/
def depth (lines : List Text) : Int :=
  (lines.map fun line =>
    ((stripStatement line).count '\x7b' : Int) - (stripStatement line).count '\x7d').sum

/-- From the line of the header through the last line, a brace is opened, and no more braces are
opened than closed. -/
structure Closes (lines : List Text) (header last : Nat) : Prop where
  header_le : header ≤ last
  last_lt : last < lines.length
  opened : ∃ line ∈ linesFrom lines header last, '\x7b' ∈ stripStatement line
  closed : depth (linesFrom lines header last) ≤ 0

/-- Behind these lines a block is closed, given the depth in front of them and whether a brace has
been opened there. -/
def ClosedBehind (before : Int) (opened : Bool) (lines : List Line) : Prop :=
  (opened = true ∨ ∃ line ∈ lines.map Line.text, '\x7b' ∈ stripStatement line) ∧
    before + depth (lines.map Line.text) ≤ 0

variable {before : Int} {opened : Bool}

theorem closedBehind_cons (line : Line) (lines : List Line) :
    ClosedBehind before opened (line :: lines) ↔
      ClosedBehind (before + braceBalance line.text)
        (opened || (stripStatement line.text).contains '\x7b') lines := by
  simp [ClosedBehind, depth, braceBalance, Int.add_assoc, or_assoc]

theorem closedBehind_nil :
    ClosedBehind before opened [] ↔ (opened && decide (before ≤ 0)) = true := by
  simp [ClosedBehind, depth]

/-- The scan for the end of a block stops at the first line behind which the block is closed. -/
theorem splitAtClose?_cases (lines : List Line) :
    (splitAtClose? before opened lines = none ∧
      ∀ front ≠ [], front <+: lines → ¬ClosedBehind before opened front) ∨
    ∃ inner close after, splitAtClose? before opened lines = some (inner, close, after) ∧
      ClosedBehind before opened (inner ++ [close]) ∧
      ∀ front ≠ [], front <+: inner → ¬ClosedBehind before opened front := by
  induction lines generalizing before opened with
  | nil => exact .inl ⟨rfl, fun front spoken inside => absurd (List.prefix_nil.mp inside) spoken⟩
  | cons line rest ih =>
    rw [splitAtClose?]
    dsimp only
    split
    next closed =>
      refine .inr ⟨[], line, rest, rfl,
        (closedBehind_cons line []).mpr (closedBehind_nil.mpr closed),
        fun front spoken inside => absurd (List.prefix_nil.mp inside) spoken⟩
    next goesOn =>
      have later {front more : List Line} (spoken : front ≠ []) (inside : front <+: line :: more)
          (others : ∀ front ≠ [], front <+: more →
            ¬ClosedBehind (before + braceBalance line.text)
              (opened || (stripStatement line.text).contains '\x7b') front) :
          ¬ClosedBehind before opened front := by
        rcases List.exists_cons_of_ne_nil spoken with ⟨first, tail, rfl⟩
        rcases List.cons_prefix_cons.mp inside with ⟨rfl, within⟩
        rw [closedBehind_cons]
        cases tail with
        | nil => exact fun closed => goesOn (closedBehind_nil.mp closed)
        | cons second tail => exact others _ (List.cons_ne_nil _ _) within
      rcases @ih (before + braceBalance line.text)
          (opened || (stripStatement line.text).contains '\x7b') with
        ⟨nowhere, others⟩ | ⟨inner, close, after, found, closed, others⟩
      · exact .inl ⟨by rw [nowhere]; rfl, fun front spoken inside => later spoken inside others⟩
      · refine .inr ⟨line :: inner, close, after, by rw [found]; rfl, ?_,
          fun front spoken inside => later spoken inside others⟩
        exact (closedBehind_cons line _).mpr closed

section Numbered

variable {lines : List Text} {header : Nat}

/-- The first lines of a script behind a header close a block exactly if the last of them does. -/
theorem closedBehind_iff {last : Nat} (le : header ≤ last) (lt : last < lines.length) :
    ClosedBehind 0 false ((numberLines header (lines.drop header)).take (last + 1 - header)) ↔
      Closes lines header last := by
  rw [take_numberLines, ← linesFrom, ClosedBehind, map_text_numberLines]
  constructor
  · rintro ⟨opened, closed⟩
    exact ⟨le, lt, by simpa using opened, by simpa using closed⟩
  · rintro ⟨-, -, opened, closed⟩
    exact ⟨.inr opened, by simpa using closed⟩

theorem Closes.take_ne_nil {last : Nat} (closes : Closes lines header last) :
    (numberLines header (lines.drop header)).take (last + 1 - header) ≠ [] := by
  have le := closes.header_le
  have lt := closes.last_lt
  apply List.ne_nil_of_length_pos
  simp only [List.length_take, length_numberLines, List.length_drop]
  omega

theorem isLeast_of_splitAtClose? {inner after : List Line} {close : Line}
    (split : splitAtClose? 0 false (numberLines header (lines.drop header)) =
      some (inner, close, after)) :
    IsLeast {last | Closes lines header last} close.index ∧
      close.index = header + inner.length ∧
      inner = numberLines header ((lines.drop header).take (close.index - header)) := by
  have whole := eq_append_of_splitAtClose? split
  have count := congrArg List.length whole
  simp only [length_numberLines, List.length_drop, List.length_append, List.length_cons] at count
  have front : inner = (numberLines header (lines.drop header)).take inner.length := by
    rw [whole, List.take_left]
  have through : inner ++ [close] =
      (numberLines header (lines.drop header)).take (header + inner.length + 1 - header) := by
    have last : header + inner.length + 1 - header = inner.length + 1 := by omega
    rw [last, whole, List.take_length_add_append]
    rfl
  have stands : close.index = header + inner.length := (of_numberLines_eq whole).1
  rcases @splitAtClose?_cases 0 false (numberLines header (lines.drop header)) with
    ⟨nowhere, -⟩ | ⟨_, _, _, found, closed, earlier⟩
  · cases split.symm.trans nowhere
  cases split.symm.trans found
  have cut : inner = numberLines header ((lines.drop header).take (close.index - header)) := by
    rw [← take_numberLines, stands, Nat.add_sub_cancel_left]
    exact front
  refine ⟨stands ▸ ⟨?_, ?_⟩, stands, cut⟩
  · rw [through] at closed
    exact (closedBehind_iff (Nat.le_add_right _ _) (by omega)).mp closed
  · intro last closes
    by_contra before
    have short : last + 1 - header ≤ inner.length := by omega
    refine earlier ((numberLines header (lines.drop header)).take (last + 1 - header))
      closes.take_ne_nil ?_ ((closedBehind_iff closes.header_le closes.last_lt).mpr closes)
    rw [front]
    exact List.take_prefix_take_left short

theorem not_closes_of_splitAtClose?
    (split : splitAtClose? 0 false (numberLines header (lines.drop header)) = none) (last : Nat) :
    ¬Closes lines header last := by
  intro closes
  rcases @splitAtClose?_cases 0 false (numberLines header (lines.drop header)) with
    ⟨-, never⟩ | ⟨_, _, _, found, -⟩
  · have closed := (closedBehind_iff closes.header_le closes.last_lt).mpr closes
    exact never _ closes.take_ne_nil (List.take_prefix _ _) closed
  · cases split.symm.trans found

end Numbered

/-! ## What a block holds -/

/-- The parts between the semicolons of a text that say something. -/
def parts (text : Text) : List Text :=
  ((text.splitOn ';').map Text.trim).filter (!·.isEmpty)

/-- What a header says behind its first brace; up to its last closing brace, if the block ends on
the header. -/
def headerParts (header : Text) (closed : Bool) : List Text :=
  let tail := ((stripStatement header).dropWhile (· != '\x7b')).tail
  parts (if closed then (tail.rdropWhile (· != '\x7d')).dropLast else tail)

/-- Lines of a block that are no statements: blank ones, comments, and single braces. -/
def IsIdle (line : Text) : Prop :=
  Text.trim line = [] ∨ ['/', '/'] <+: Text.trim line ∨
    stripStatement line ∈ [[], ['\x7b'], ['\x7d']]

/-- No brace is closed on a header in front of the first one that it opens. -/
def OpensFirst (header : Text) : Prop :=
  '\x7b' ∈ stripStatement header →
    '\x7d' ∉ (stripStatement header).takeWhile (· != '\x7b')

theorem splitAtEach_eq_splitOn (mark : Char) (text : Text) :
    Text.splitAtEach mark text = text.splitOn mark := by
  induction text with
  | nil => rfl
  | cons char rest ih =>
    rw [Text.splitAtEach, ih, List.splitOn, List.splitOn, List.splitOnP_cons_eq_if_modifyHead]
    have spoken := List.splitOnP_ne_nil (· == mark) rest
    cases split : List.splitOnP (· == mark) rest with
    | nil => exact absurd split spoken
    | cons part parts => by_cases same : char = mark <;> simp [same]

theorem afterFirst?_eq (mark : Char) (text : Text) :
    Text.afterFirst? mark text =
      if mark ∈ text then some (text.dropWhile (· != mark)).tail else none := by
  induction text with
  | nil => rfl
  | cons char rest ih =>
    rw [Text.afterFirst?]
    by_cases same : char = mark
    · simp [same]
    · simp [same, ih, Ne.symm same]

theorem splitAtLast?_of_mem {mark : Char} {text : Text} (inside : mark ∈ text) :
    ∃ behind,
      Text.splitAtLast? mark text = some ((text.rdropWhile (· != mark)).dropLast, behind) := by
  have whole : text.rdropWhile (· != mark) ++ text.rtakeWhile (· != mark) = text :=
    List.rdropWhile_append_rtakeWhile
  have absent : mark ∉ text.rtakeWhile (· != mark) := fun member => by
    simpa using List.mem_rtakeWhile_imp member
  have spoken : text.rdropWhile (· != mark) ≠ [] := fun nothing => by
    simpa using List.rdropWhile_eq_nil_iff.mp nothing mark inside
  have last : (text.rdropWhile (· != mark)).getLast spoken = mark := by
    simpa using List.rdropWhile_last_not (· != mark) text spoken
  have split : text.rdropWhile (· != mark) = (text.rdropWhile (· != mark)).dropLast ++ [mark] := by
    conv_lhs => rw [← List.dropLast_append_getLast spoken, last]
  refine ⟨text.rtakeWhile (· != mark), ?_⟩
  conv_lhs => rw [← whole, split, List.append_assoc, List.singleton_append]
  exact Pattern.splitAtLast?_append absent

theorem headerStatements_eq {header : Text} {closed : Bool}
    (ends : closed = true → '\x7b' ∈ stripStatement header →
      '\x7d' ∈ ((stripStatement header).dropWhile (· != '\x7b')).tail) :
    headerStatements header closed = headerParts header closed := by
  unfold headerStatements headerParts parts
  rw [afterFirst?_eq]
  by_cases opens : '\x7b' ∈ stripStatement header
  · simp only [if_pos opens, splitAtEach_eq_splitOn]
    cases closed with
    | false => rfl
    | true =>
      rcases splitAtLast?_of_mem (ends rfl opens) with ⟨behind, found⟩
      simp only [if_true, found]
  · have nothing : (stripStatement header).dropWhile (· != '\x7b') = [] := by
      rw [List.dropWhile_eq_nil_iff]
      intro char inside
      simpa using fun same : char = '\x7b' => opens (same ▸ inside)
    rw [if_neg opens, nothing]
    cases closed <;> rfl

/-- A line inside a block is kept unless it is idle. -/
theorem interiorStatement?_eq_some {line statement : Line} :
    interiorStatement? line = some statement ↔
      ¬IsIdle line.text ∧ statement = ⟨line.index, Text.trim line.text⟩ := by
  have idle : isBraceOnly line.text = true ↔ IsIdle line.text := by
    have inert (words : Text) (comment : Text.trim line.text = '/' :: '/' :: words) :
        stripStatement line.text = [] := by
      rw [← stripStatement_trim, comment]
      exact IsInert.stripStatement ⟨[], _, rfl, by simp, .inr ⟨words, rfl⟩⟩
    have blank (nothing : Text.trim line.text = []) : stripStatement line.text = [] := by
      rw [← stripStatement_trim, nothing]
      rfl
    have brace : isBraceOnly line.text = true ↔
        stripStatement line.text ∈ [[], ['\x7b'], ['\x7d']] := by
      unfold isBraceOnly
      split <;> simp_all
    rw [brace, IsIdle]
    refine ⟨fun known => .inr (.inr known), ?_⟩
    rintro (nothing | ⟨words, comment⟩ | known)
    · simp [blank nothing]
    · simp [inert words comment.symm]
    · exact known
  rw [interiorStatement?_eq, ← idle]
  by_cases alone : isBraceOnly line.text = true
  · simp [alone]
  · simp [alone, eq_comm]

section Interior

variable {lines : List Text} {header last : Nat}

theorem mem_tail_numberLines {line : Line} :
    line ∈ (numberLines header ((lines.drop header).take (last - header))).tail ↔
      header < line.index ∧ line.index < last ∧ lines[line.index]? = some line.text := by
  rw [← take_numberLines, List.mem_iff_getElem?]
  simp only [List.getElem?_tail, List.getElem?_take, getElem?_numberLines, List.getElem?_drop]
  constructor
  · rintro ⟨place, found⟩
    split at found
    · rcases Option.map_eq_some_iff.mp found with ⟨text, here, rfl⟩
      exact ⟨by simp, by simp only; omega, here⟩
    · cases found
  · rintro ⟨behind, before, here⟩
    have place : header + (line.index - header - 1 + 1) = line.index := by omega
    have inside : line.index - header - 1 + 1 < last - header := by omega
    exact ⟨line.index - header - 1, by rw [if_pos inside, place, here]; rfl⟩

theorem pairwise_interior :
    ((numberLines header ((lines.drop header).take (last - header))).tail.filterMap
      interiorStatement?).Pairwise fun line later => line.index < later.index := by
  rw [List.pairwise_filterMap]
  refine (pairwise_numberLines _ _).tail.imp ?_
  intro line later before statement kept statement' kept'
  rw [index_of_interiorStatement? kept, index_of_interiorStatement? kept']
  exact before

theorem mem_interior {statement : Line} :
    statement ∈ (numberLines header ((lines.drop header).take (last - header))).tail.filterMap
        interiorStatement? ↔
      header < statement.index ∧ statement.index < last ∧
        ∃ source, lines[statement.index]? = some source ∧ ¬IsIdle source ∧
          statement.text = Text.trim source := by
  simp only [List.mem_filterMap, mem_tail_numberLines, interiorStatement?_eq_some]
  constructor
  · rintro ⟨line, ⟨behind, before, here⟩, spoken, rfl⟩
    exact ⟨behind, before, line.text, here, spoken, rfl⟩
  · rintro ⟨behind, before, source, here, spoken, same⟩
    exact ⟨⟨statement.index, source⟩, ⟨behind, before, here⟩, spoken, by rw [← same]⟩

end Interior

/-! ## Blocks by their position -/

/-- A block whose lines are counted from elsewhere. -/
def shift (offset : Nat) (block : Block) : Block :=
  ⟨block.body.map (Line.shift offset), block.endIndex + offset,
    block.after.map (Line.shift offset)⟩

theorem splitAtClose?_shift (offset : Nat) (lines : List Line) :
    splitAtClose? before opened (lines.map (Line.shift offset)) =
      (splitAtClose? before opened lines).map fun (inner, close, after) =>
        (inner.map (Line.shift offset), close.shift offset, after.map (Line.shift offset)) := by
  induction lines generalizing before opened with
  | nil => rfl
  | cons line rest ih =>
    have text : (line.shift offset).text = line.text := rfl
    simp only [List.map_cons, splitAtClose?, text]
    split
    · rfl
    · rw [ih, Option.map_map, Option.map_map]
      rfl

theorem interiorStatement?_shift (offset : Nat) (line : Line) :
    interiorStatement? (line.shift offset) =
      (interiorStatement? line).map (Line.shift offset) := by
  simp only [interiorStatement?_eq, Line.shift]
  split <;> rfl

/-- Blocks do not hang on where their lines are counted from. -/
theorem extract_shift (offset : Nat) (header : Line) (following : List Line) :
    extract (header.shift offset) (following.map (Line.shift offset)) =
      (extract header following).map (shift offset) := by
  simp only [extract, ← List.map_cons, splitAtClose?_shift]
  cases splitAtClose? 0 false (header :: following) with
  | none => rfl
  | some split =>
    rcases split with ⟨inner, close, after⟩
    have interior : (inner.map (Line.shift offset)).tail.filterMap interiorStatement? =
        (inner.tail.filterMap interiorStatement?).map (Line.shift offset) := by
      rw [← List.map_tail, List.filterMap_map, List.map_filterMap]
      exact List.filterMap_congr fun line _ => interiorStatement?_shift offset line
    simp only [Option.map_some, interior, Except.map, shift, List.map_append, List.map_map,
      List.isEmpty_map, Line.shift]
    rfl

/-- A block as it is found by the position of its header. -/
def found (block : Block) : Found :=
  ⟨block.body.map fun line => ((line.index : Int), line.text), block.endIndex⟩

section Script

variable {lines : List Text} {header : Nat} {text : Text}

/-- The block that begins on a line of a script. -/
def extractFrom (lines : List Text) (header : Nat) (text : Text) : Except Fault Block :=
  extract ⟨header, text⟩ (numberLines (header + 1) (lines.drop (header + 1)))

theorem numberLines_drop (here : lines[header]? = some text) (start : Nat) :
    numberLines start (lines.drop header) =
      ⟨start, text⟩ :: numberLines (start + 1) (lines.drop (header + 1)) := by
  rcases List.getElem?_eq_some_iff.mp here with ⟨inside, same⟩
  rw [List.drop_eq_getElem_cons inside, same, numberLines]

/-- On a line of a script, the position of a header finds the block that begins there. -/
theorem locate?_eq (here : lines[header]? = some text) :
    locate? lines header = some ((extractFrom lines header text).map found) := by
  have natural : ¬(header : Int) < 0 := by omega
  have shifted : extractFrom lines header text =
      (extract ⟨0, text⟩ (numberLines 1 (lines.drop (header + 1)))).map (shift header) := by
    rw [← extract_shift, ← numberLines_shift, extractFrom, Nat.add_comm 1]
    simp only [Line.shift, Nat.zero_add]
  simp only [locate?, if_neg natural, Int.toNat_natCast, List.append_nil, numberLines_drop here,
    shifted]
  cases extract ⟨0, text⟩ (numberLines (0 + 1) (lines.drop (header + 1))) with
  | error cause => rfl
  | ok block =>
    have behind : ¬(block.endIndex : Int) + header < 0 := by omega
    simp [Except.map, found, shift, behind, Line.shift]

/-- What the block that begins on a line of a script holds, and where it ends. -/
structure Exact (lines : List Text) (header : Nat) (text : Text) (block : Block) : Prop where
  least : IsLeast {last | Closes lines header last} block.endIndex
  body : ∃ inner, block.body =
      (headerParts text (decide (block.endIndex = header))).map (⟨header, ·⟩) ++ inner ∧
    (inner.Pairwise fun line later => line.index < later.index) ∧
    ∀ line, line ∈ inner ↔ header < line.index ∧ line.index < block.endIndex ∧
      ∃ source, lines[line.index]? = some source ∧ ¬IsIdle source ∧ line.text = Text.trim source
  ordered : block.body.Pairwise fun line later => line.index ≤ later.index
  bounded : ∀ line ∈ block.body, header ≤ line.index ∧
    (line.index < block.endIndex ∨ line.index = header ∧ block.endIndex = header)
  settled : ∀ others, (∀ index, header ≤ index → index ≤ block.endIndex →
    others[index]? = lines[index]?) → locate? others header = locate? lines header

theorem extractFrom_of_split (here : lines[header]? = some text) {inner after : List Line}
    {close : Line} (split : splitAtClose? 0 false (numberLines header (lines.drop header)) =
      some (inner, close, after)) :
    extractFrom lines header text =
      .ok ⟨(headerStatements text inner.isEmpty).map (⟨header, ·⟩) ++
        inner.tail.filterMap interiorStatement?, close.index, after⟩ := by
  rw [extractFrom, extract, ← numberLines_drop here header, split]

/-- A block ends at the first line that closes it, and the lines behind that are left. -/
theorem ends_of_extractFrom (here : lines[header]? = some text) {block : Block}
    (extracted : extractFrom lines header text = .ok block) :
    IsLeast {last | Closes lines header last} block.endIndex ∧
      block.after = numberLines (block.endIndex + 1) (lines.drop (block.endIndex + 1)) := by
  cases split : splitAtClose? 0 false (numberLines header (lines.drop header)) with
  | none =>
    rw [extractFrom, extract, ← numberLines_drop here header, split] at extracted
    cases extracted
  | some result =>
    obtain ⟨inner, close, after⟩ := result
    rw [extractFrom_of_split here split] at extracted
    cases extracted
    obtain ⟨least, stands, _⟩ := isLeast_of_splitAtClose? split
    obtain ⟨_, behind⟩ := of_numberLines_eq (eq_append_of_splitAtClose? split)
    refine ⟨least, behind.trans ?_⟩
    rw [List.drop_drop, stands, Nat.add_assoc]

theorem exists_split_of_agree {others : List Text} {inner after : List Line} {close : Line}
    (split : splitAtClose? 0 false (numberLines header (lines.drop header)) =
      some (inner, close, after))
    (agree : ∀ index, header ≤ index → index ≤ header + inner.length →
      others[index]? = lines[index]?) :
    ∃ behind, splitAtClose? 0 false (numberLines header (others.drop header)) =
      some (inner, close, behind) := by
  have same : (others.drop header).take (inner.length + 1) =
      (lines.drop header).take (inner.length + 1) := by
    apply List.ext_getElem?
    intro place
    simp only [List.getElem?_take, List.getElem?_drop]
    split
    next inside => exact agree _ (Nat.le_add_right _ _) (by omega)
    next => rfl
  have front : (numberLines header (others.drop header)).take (inner.length + 1) =
      inner ++ [close] := by
    rw [take_numberLines, same, ← take_numberLines, eq_append_of_splitAtClose? split,
      List.take_length_add_append]
    rfl
  refine ⟨(numberLines header (others.drop header)).drop (inner.length + 1), ?_⟩
  rw [← splitAtClose?_replace split, ← List.singleton_append, ← List.append_assoc, ← front,
    List.take_append_drop]

/-- A header on which its block ends closes a brace behind the first one that it opens. -/
theorem closes_behind_brace (proper : OpensFirst text) (here : lines[header]? = some text)
    (closes : Closes lines header header) (opens : '\x7b' ∈ stripStatement text) :
    '\x7d' ∈ ((stripStatement text).dropWhile (· != '\x7b')).tail := by
  rcases List.getElem?_eq_some_iff.mp here with ⟨inside, same⟩
  have single : linesFrom lines header header = [text] := by
    rw [linesFrom, List.drop_eq_getElem_cons inside, same, Nat.add_sub_cancel_left]
    rfl
  have balance := closes.closed
  simp only [single, depth, List.map_cons, List.map_nil, List.sum_cons, List.sum_nil] at balance
  have opening := List.count_pos_iff.mpr opens
  have closing : '\x7d' ∈ stripStatement text := List.count_pos_iff.mp (by omega)
  rw [← List.takeWhile_append_dropWhile (p := (· != '\x7b')) (l := stripStatement text)] at closing
  rcases List.mem_append.mp closing with front | behind
  · exact absurd front (proper opens)
  · cases tail : (stripStatement text).dropWhile (· != '\x7b') with
    | nil => simp [tail] at behind
    | cons first rest =>
      have brace : first = '\x7b' := by
        have head := List.head?_dropWhile_not (· != '\x7b') (stripStatement text)
        simpa [tail] using head
      rw [tail, brace] at behind
      simpa using behind

/-- The extraction of a block is exact. -/
theorem extract_exact (here : lines[header]? = some text) (proper : OpensFirst text) :
    locate? lines header = some ((extractFrom lines header text).map found) ∧
      (∀ cause, extractFrom lines header text = .error cause →
        cause = .unclosedBlock (Text.trim text) ∧ ∀ last, ¬Closes lines header last) ∧
      ∀ block, extractFrom lines header text = .ok block → Exact lines header text block := by
  refine ⟨locate?_eq here, ?_⟩
  cases split : splitAtClose? 0 false (numberLines header (lines.drop header)) with
  | none =>
    have failed : extractFrom lines header text = .error (.unclosedBlock (Text.trim text)) := by
      rw [extractFrom, extract, ← numberLines_drop here header, split]
    rw [failed]
    refine ⟨?_, fun _ other => (by cases other)⟩
    rintro _ ⟨⟩
    exact ⟨rfl, not_closes_of_splitAtClose? split⟩
  | some result =>
    rcases result with ⟨inner, close, after⟩
    rcases isLeast_of_splitAtClose? split with ⟨least, stands, cut⟩
    have extracted := extractFrom_of_split here split
    rw [extracted]
    refine ⟨fun _ other => (by cases other), ?_⟩
    rintro _ ⟨⟩
    have closed : inner.isEmpty = decide (close.index = header) := by
      rw [stands]
      cases inner <;> simp
    have first : headerStatements text inner.isEmpty =
        headerParts text (decide (close.index = header)) := by
      rw [← closed]
      refine headerStatements_eq fun ends opens => closes_behind_brace proper here ?_ opens
      have same : close.index = header := by simpa [closed] using ends
      exact same ▸ least.1
    have le := least.1.header_le
    have interior : ∀ line ∈ inner.tail.filterMap interiorStatement?,
        header < line.index ∧ line.index < close.index := by
      rw [cut]
      exact fun line member => ⟨(mem_interior.mp member).1, (mem_interior.mp member).2.1⟩
    have ascending : (inner.tail.filterMap interiorStatement?).Pairwise
        fun line later => line.index < later.index := by
      rw [cut]
      exact pairwise_interior
    refine ⟨least, ⟨_, by rw [first], ascending, fun line => ?_⟩, ?_, ?_, ?_⟩
    · rw [cut]
      exact mem_interior
    · refine List.pairwise_append.mpr ⟨?_, ascending.imp Nat.le_of_lt, ?_⟩
      · rw [List.pairwise_map]
        exact List.pairwise_of_forall fun _ _ => le_rfl
      · intro line member later inside
        rcases List.mem_map.mp member with ⟨part, -, rfl⟩
        exact (interior later inside).1.le
    · intro line member
      rcases List.mem_append.mp member with member | inside
      · rcases List.mem_map.mp member with ⟨part, -, rfl⟩
        exact ⟨le_rfl, le.lt_or_eq.imp id fun same => ⟨rfl, same.symm⟩⟩
      · exact ⟨(interior line inside).1.le, .inl (interior line inside).2⟩
    · intro others agree
      have hereToo : others[header]? = some text := by rw [agree header le_rfl le, here]
      rcases exists_split_of_agree split fun index behind before =>
        agree index behind (stands ▸ before) with ⟨rest, splitToo⟩
      rw [locate?_eq hereToo, locate?_eq here, extracted, extractFrom_of_split hereToo splitToo]
      rfl

/-- A comment that holds a brace, and a brace behind the end. -/
theorem extract_exact_of_comment :
    let lines := ["let s = 0;", "for (i) \x7b a = 1; b // \x7d", " c = 2;", "\x7d", "\x7d"].map
      String.toList
    let text := "for (i) \x7b a = 1; b // \x7d".toList
    let block : Block :=
      ⟨[⟨1, "a = 1".toList⟩, ⟨1, ['b']⟩, ⟨2, "c = 2;".toList⟩], 3, [⟨4, ['\x7d']⟩]⟩
    lines[1]? = some text ∧ OpensFirst text ∧ extractFrom lines 1 text = .ok block ∧
      Exact lines 1 text block := by
  intro lines text block
  have proper : OpensFirst text := fun _ => by decide +kernel
  have extracted : extractFrom lines 1 text = .ok block := by decide +kernel
  have here : lines[1]? = some text := rfl
  exact ⟨here, proper, extracted, (extract_exact here proper).2.2 block extracted⟩

end Script

end Block

end StepScript

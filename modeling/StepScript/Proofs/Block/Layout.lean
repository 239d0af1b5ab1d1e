import StepScript.Proofs.Block.Extent

/-!
# Layouts of a block

A flat block is a loop without braces inside.  Its statements can stand behind the opening brace on
the header, on lines of their own, and in front of the closing brace.  All of them are extracted,
but for those in front of a closing brace that stands on a line below the header
(`Block.extract_laidOut`).
-/

namespace StepScript

namespace Block

/-! ## Statements in a row -/

/-- A text without braces. -/
def Unbraced (text : Text) : Prop :=
  '\x7b' ∉ text ∧ '\x7d' ∉ text

/-- A statement without braces, semicolons and comments. -/
@[mk_iff]
structure IsSimple (statement : Text) : Prop where
  spoken : statement ≠ []
  trimmed : Text.trim statement = statement
  unbraced : Unbraced statement
  undivided : ';' ∉ statement
  uncommented : ¬['/', '/'] <:+: statement

/-- Statements written one behind the other, with blanks around them and semicolons between them. -/
inductive Row : Text → List Text → Prop
  | blank {text : Text} (blanks : ∀ char ∈ text, Text.isBlank char = true) : Row text []
  | single {statement : Text} (simple : IsSimple statement) (front behind : Text)
      (blanks : ∀ char ∈ front ++ behind, Text.isBlank char = true) :
      Row (front ++ statement ++ behind) [statement]
  | joined {text rest : Text} {statements others : List Text} (front : Row text statements)
      (behind : Row rest others) : Row (text ++ ';' :: rest) (statements ++ others)

/-- A visible character does not stand among blanks. -/
theorem not_mem_of_blanks {text : Text} {mark : Char} (visible : Text.isBlank mark = false)
    (blanks : ∀ char ∈ text, Text.isBlank char = true) : mark ∉ text := by
  intro member
  simp [blanks mark member] at visible

theorem trim_of_blanks {text : Text} (blanks : ∀ char ∈ text, Text.isBlank char = true) :
    Text.trim text = [] := by
  rw [Text.trim, Text.trimStart, List.dropWhile_eq_nil_iff.mpr blanks]
  rfl

theorem trim_padded {text front behind : Text} (trimmed : Text.trim text = text)
    (spoken : text ≠ []) (blanks : ∀ char ∈ front ++ behind, Text.isBlank char = true) :
    Text.trim (front ++ text ++ behind) = text := by
  rcases List.forall_mem_append.mp blanks with ⟨before, after⟩
  rcases List.exists_cons_of_ne_nil spoken with ⟨char, rest, rfl⟩
  have visible := Text.head_of_trim trimmed
  have starts : Text.trimStart (front ++ (char :: rest) ++ behind) = char :: rest ++ behind := by
    rw [Text.trimStart, List.append_assoc, List.dropWhile_append_of_pos before]
    exact List.dropWhile_cons_of_neg (by simp [visible])
  rw [Text.trim, starts, Text.trimEnd, Text.dropEnd_append_of_all after]
  exact Text.trimEnd_of_trim trimmed

/-- A text without semicolons is one part, if it says something. -/
theorem parts_of_undivided {text : Text} (undivided : ';' ∉ text) :
    parts text = [Text.trim text].filter (!·.isEmpty) := by
  have whole : ∀ char ∈ text, (char == ';') = false := by
    intro char member
    rw [beq_eq_false_iff_ne]
    rintro rfl
    exact undivided member
  rw [parts, List.splitOn, List.splitOnP_eq_singleton whole, List.map_singleton]

theorem IsSimple.stripStatement {statement : Text} (simple : IsSimple statement) :
    stripStatement statement = statement := by
  refine Form.stripStatement_eq (Text.trimStart_of_trim simple.trimmed)
    (.of_no_marker simple.uncommented) ?_
  rcases List.eq_nil_or_concat' statement with nothing | ⟨front, char, rfl⟩
  · exact absurd nothing simple.spoken
  · have other : char ≠ ';' := by
      rintro rfl
      exact simple.undivided (by simp)
    refine Text.dropEnd_concat ?_ front
    simp [Text.isPadding, other, Text.last_of_trim simple.trimmed]

namespace Row

variable {text : Text} {statements : List Text}

theorem parts_eq (row : Row text statements) : parts text = statements := by
  induction row with
  | blank blanks =>
    rw [parts_of_undivided (not_mem_of_blanks (by decide) blanks), trim_of_blanks blanks]
    rfl
  | @single statement simple front behind blanks =>
    have undivided : ';' ∉ front ++ statement ++ behind := by
      have outside : ';' ∉ front ++ behind := not_mem_of_blanks (by decide) blanks
      simpa [simple.undivided] using outside
    rw [parts_of_undivided undivided, trim_padded simple.trimmed simple.spoken blanks]
    exact List.filter_cons_of_pos (by simp [simple.spoken])
  | joined front behind ihFront ihBehind =>
    rw [parts, List.splitOn_append_cons_self, List.map_append, List.filter_append]
    exact congrArg₂ _ ihFront ihBehind

/-- There are no braces in a row of statements. -/
theorem unbraced (row : Row text statements) : Unbraced text := by
  induction row with
  | blank blanks =>
    exact ⟨not_mem_of_blanks (by decide) blanks, not_mem_of_blanks (by decide) blanks⟩
  | single simple front behind blanks =>
    have opening : '\x7b' ∉ front ++ behind := not_mem_of_blanks (by decide) blanks
    have closing : '\x7d' ∉ front ++ behind := not_mem_of_blanks (by decide) blanks
    rw [List.mem_append, not_or] at opening closing
    simp [Unbraced, opening, closing, simple.unbraced.1, simple.unbraced.2]
  | joined front behind ihFront ihBehind =>
    simp [Unbraced, ihFront.1, ihFront.2, ihBehind.1, ihBehind.2]

theorem isSimple (row : Row text statements) : ∀ statement ∈ statements, IsSimple statement := by
  induction row with
  | blank blanks => simp
  | single simple front behind blanks => simpa using simple
  | joined front behind ihFront ihBehind => exact List.forall_mem_append.mpr ⟨ihFront, ihBehind⟩

end Row

/-! ## Flat blocks -/

/-- The lines of a block from behind the line of its opening brace through its last line, with the
statements on lines of their own and those in front of the closing brace. -/
inductive Rest : List Text → (own last : List Text) → Prop
  | close {line inside rest : Text} {last : List Text}
      (reads : stripStatement line = inside ++ '\x7d' :: rest) (row : Row inside last)
      (unbraced : Unbraced rest) : Rest [line] [] last
  | idle {line : Text} {lines own last : List Text} (nothing : stripStatement line = [])
      (behind : Rest lines own last) : Rest (line :: lines) own last
  | own {line : Text} {lines own last : List Text} (simple : IsSimple (stripStatement line))
      (behind : Rest lines own last) : Rest (line :: lines) (stripStatement line :: own) last

/-- The lines of a flat block, with the statements behind the opening brace on the header, those on
lines of their own, and those in front of a closing brace below the header. -/
inductive LaidOut : List Text → (front own last : List Text) → Prop
  | oneLine {header head inside rest : Text} {front : List Text}
      (reads : stripStatement header = head ++ '\x7b' :: (inside ++ '\x7d' :: rest))
      (plain : Unbraced head) (row : Row inside front) (unbraced : Unbraced rest) :
      LaidOut [header] front [] []
  | opened {header head tail : Text} {lines front own last : List Text}
      (reads : stripStatement header = head ++ '\x7b' :: tail) (plain : Unbraced head)
      (row : Row tail front) (behind : Rest lines own last) :
      LaidOut (header :: lines) front own last
  | openedBelow {header opening : Text} {idle lines own last : List Text}
      (plain : Unbraced (stripStatement header)) (nothing : ∀ line ∈ idle, stripStatement line = [])
      (brace : stripStatement opening = ['\x7b']) (behind : Rest lines own last) :
      LaidOut (header :: (idle ++ opening :: lines)) [] own last
  | below {header line inside rest : Text} {idle last : List Text}
      (plain : Unbraced (stripStatement header)) (nothing : ∀ line ∈ idle, stripStatement line = [])
      (reads : stripStatement line = '\x7b' :: (inside ++ '\x7d' :: rest)) (row : Row inside last)
      (unbraced : Unbraced rest) : LaidOut (header :: (idle ++ [line])) [] [] last

/-- What statements on lines say. -/
def said (lines : List Line) : List Text :=
  lines.map fun line => stripStatement line.text

section Scan

variable {depth : Int} {opened : Bool}

/-- A line without braces is passed by the scan for the end of a block. -/
theorem splitAtClose?_cons {line : Line} (others : List Line)
    (plain : Unbraced (stripStatement line.text))
    (goesOn : ¬(opened && decide (depth ≤ 0)) = true) :
    splitAtClose? depth opened (line :: others) =
      (splitAtClose? depth opened others).map fun (inner, behind) => (line :: inner, behind) := by
  have balance : depth + braceBalance line.text = depth := by
    simp [braceBalance, List.count_eq_zero.mpr plain.1, List.count_eq_zero.mpr plain.2]
  have unopened : (opened || (stripStatement line.text).contains '\x7b') = opened := by
    simp [plain.1]
  rw [splitAtClose?]
  dsimp only
  rw [balance, unopened, if_neg goesOn]

theorem splitAtClose?_passes {front : List Line} (others : List Line)
    (plain : ∀ line ∈ front, Unbraced (stripStatement line.text))
    (goesOn : ¬(opened && decide (depth ≤ 0)) = true) :
    splitAtClose? depth opened (front ++ others) =
      (splitAtClose? depth opened others).map fun (inner, behind) => (front ++ inner, behind) := by
  induction front with
  | nil => simp
  | cons line front ih =>
    rcases List.forall_mem_cons.mp plain with ⟨here, later⟩
    rw [List.cons_append, splitAtClose?_cons _ here goesOn, ih later, Option.map_map]
    rfl

theorem splitAtClose?_of_closes {line : Line} (others : List Line)
    (opens : opened = true ∨ '\x7b' ∈ stripStatement line.text)
    (closes : depth + braceBalance line.text ≤ 0) :
    splitAtClose? depth opened (line :: others) = some ([], line, others) := by
  rw [splitAtClose?]
  exact if_pos (by simpa using ⟨opens, closes⟩)

end Scan

theorem braceBalance_of_closing {line inside rest : Text}
    (reads : stripStatement line = inside ++ '\x7d' :: rest) (inner : Unbraced inside)
    (outer : Unbraced rest) : braceBalance line = -1 := by
  simp [braceBalance, reads, List.count_eq_zero.mpr inner.1, List.count_eq_zero.mpr inner.2,
    List.count_eq_zero.mpr outer.1, List.count_eq_zero.mpr outer.2]

theorem interiorStatement?_of_simple {line : Line} (simple : IsSimple (stripStatement line.text)) :
    interiorStatement? line = some ⟨line.index, Text.trim line.text⟩ := by
  have spoken : isBraceOnly line.text = false := by
    unfold isBraceOnly
    split
    next nothing => exact absurd nothing simple.spoken
    next char single =>
      have plain := simple.unbraced
      rw [single, Unbraced, List.mem_singleton, List.mem_singleton] at plain
      simp [Ne.symm plain.1, Ne.symm plain.2]
    next => rfl
  rw [interiorStatement?_eq, spoken]
  rfl

theorem interiorStatement?_of_idle {line : Line} (nothing : stripStatement line.text = []) :
    interiorStatement? line = none := by
  rw [interiorStatement?_eq, isBraceOnly_of_strip_nil nothing]
  rfl

theorem unbraced_of_idle {line : Text} (nothing : stripStatement line = []) :
    Unbraced (stripStatement line) := by
  rw [nothing]
  exact ⟨List.not_mem_nil, List.not_mem_nil⟩

/-- Behind an opening brace, the scan ends on the last line of a flat block, and the lines before
say the statements on lines of their own. -/
theorem Rest.exists_split {lines own last : List Text} (laid : Rest lines own last) (start : Nat)
    (others : List Line) :
    ∃ inner close, splitAtClose? 1 true (numberLines start lines ++ others) =
        some (inner, close, others) ∧
      close.index + 1 = start + lines.length ∧
      said (inner.filterMap interiorStatement?) = own := by
  induction laid generalizing start with
  | @close line inside rest last reads row unbraced =>
    refine ⟨[], ⟨start, line⟩, ?_, rfl, rfl⟩
    refine splitAtClose?_of_closes others (.inl rfl) ?_
    rw [braceBalance_of_closing reads row.unbraced unbraced]
    decide
  | @idle line lines own last nothing behind ih =>
    rcases ih (start + 1) with ⟨inner, close, split, ends, interior⟩
    refine ⟨⟨start, line⟩ :: inner, close, ?_, ?_, ?_⟩
    · rw [numberLines, List.cons_append,
        splitAtClose?_cons _ (unbraced_of_idle nothing) (by decide), split]
      rfl
    · rw [ends, List.length_cons, Nat.add_right_comm, Nat.add_assoc]
    · rw [List.filterMap_cons_none (interiorStatement?_of_idle nothing), interior]
  | @own line lines own last simple behind ih =>
    rcases ih (start + 1) with ⟨inner, close, split, ends, interior⟩
    refine ⟨⟨start, line⟩ :: inner, close, ?_, ?_, ?_⟩
    · rw [numberLines, List.cons_append, splitAtClose?_cons _ simple.unbraced (by decide), split]
      rfl
    · rw [ends, List.length_cons, Nat.add_right_comm, Nat.add_assoc]
    · rw [List.filterMap_cons_some (interiorStatement?_of_simple simple), said, List.map_cons,
        stripStatement_trim]
      exact congrArg _ interior

theorem afterFirst?_append {mark : Char} {front : Text} (first : mark ∉ front) (behind : Text) :
    Text.afterFirst? mark (front ++ mark :: behind) = some behind := by
  induction front with
  | nil => simp [Text.afterFirst?]
  | cons char front ih =>
    rw [List.mem_cons, not_or] at first
    rw [List.cons_append, Text.afterFirst?, if_neg (Ne.symm first.1), ih first.2]

section Header

variable {header head tail inside rest : Text} {front : List Text}

theorem headerStatements_of_row (reads : stripStatement header = head ++ '\x7b' :: tail)
    (plain : Unbraced head) (row : Row tail front) : headerStatements header false = front := by
  unfold headerStatements
  rw [reads, afterFirst?_append plain.1]
  simp only [splitAtEach_eq_splitOn]
  exact row.parts_eq

theorem headerStatements_of_closed
    (reads : stripStatement header = head ++ '\x7b' :: (inside ++ '\x7d' :: rest))
    (plain : Unbraced head) (row : Row inside front) (unbraced : Unbraced rest) :
    headerStatements header true = front := by
  unfold headerStatements
  rw [reads, afterFirst?_append plain.1]
  simp only [splitAtEach_eq_splitOn, if_true, Pattern.splitAtLast?_append unbraced.2]
  exact row.parts_eq

theorem headerStatements_of_unbraced (plain : Unbraced (stripStatement header)) (closed : Bool) :
    headerStatements header closed = [] := by
  unfold headerStatements
  rw [afterFirst?_eq, if_neg plain.1]

theorem splitAtClose?_of_opens {line : Line} (others : List Line)
    (reads : stripStatement line.text = head ++ '\x7b' :: tail) (plain : Unbraced head)
    (unclosed : Unbraced tail) :
    splitAtClose? 0 false (line :: others) =
      (splitAtClose? 1 true others).map fun (inner, behind) => (line :: inner, behind) := by
  have balance : braceBalance line.text = 1 := by
    simp [braceBalance, reads, List.count_eq_zero.mpr plain.1, List.count_eq_zero.mpr plain.2,
      List.count_eq_zero.mpr unclosed.1, List.count_eq_zero.mpr unclosed.2]
  have opens : (stripStatement line.text).contains '\x7b' = true := by simp [reads]
  rw [splitAtClose?]
  dsimp only
  rw [balance, opens]
  rfl

/-- A line that opens a brace and closes it is the end of the block. -/
theorem splitAtClose?_of_both {line : Line} (others : List Line)
    (reads : stripStatement line.text = head ++ '\x7b' :: (inside ++ '\x7d' :: rest))
    (plain : Unbraced head) (row : Row inside front) (unbraced : Unbraced rest) :
    splitAtClose? 0 false (line :: others) = some ([], line, others) := by
  refine splitAtClose?_of_closes others (.inr (by simp [reads])) ?_
  simp [braceBalance, reads, List.count_eq_zero.mpr plain.1, List.count_eq_zero.mpr plain.2,
    List.count_eq_zero.mpr row.unbraced.1, List.count_eq_zero.mpr row.unbraced.2,
    List.count_eq_zero.mpr unbraced.1, List.count_eq_zero.mpr unbraced.2]

end Header

theorem said_of_simple {statements : List Text} (simple : ∀ text ∈ statements, IsSimple text)
    (index : Nat) : said (statements.map (⟨index, ·⟩)) = statements := by
  rw [said, List.map_map]
  exact (List.map_congr_left fun text member => (simple text member).stripStatement).trans
    (List.map_id _)

/-- Idle lines between a header and its opening brace are passed, and say nothing. -/
theorem unbraced_of_mem_numberLines {start : Nat} {idle : List Text}
    (nothing : ∀ line ∈ idle, stripStatement line = []) :
    ∀ line ∈ numberLines start idle, Unbraced (stripStatement line.text) := by
  intro line member
  refine unbraced_of_idle (nothing line.text ?_)
  rw [← map_text_numberLines start idle]
  exact List.mem_map_of_mem member

theorem filterMap_numberLines_of_idle {start : Nat} {idle : List Text}
    (nothing : ∀ line ∈ idle, stripStatement line = []) :
    (numberLines start idle).filterMap interiorStatement? = [] := by
  rw [List.filterMap_eq_nil_iff]
  intro line member
  refine interiorStatement?_of_idle (nothing line.text ?_)
  rw [← map_text_numberLines start idle]
  exact List.mem_map_of_mem member

namespace LaidOut

variable {header : Text} {more front own last : List Text}

theorem isSimple_front (laid : LaidOut (header :: more) front own last) :
    ∀ statement ∈ front, IsSimple statement := by
  cases laid with
  | oneLine reads plain row unbraced => exact row.isSimple
  | opened reads plain row behind => exact row.isSimple
  | openedBelow | below => simp

/-- The scan from the header ends on the last line of a flat block; the header gives the statements
behind its brace, and the lines before the last those on lines of their own. -/
theorem exists_split (laid : LaidOut (header :: more) front own last) (start : Nat)
    (others : List Line) :
    ∃ inner close,
      splitAtClose? 0 false (⟨start, header⟩ :: (numberLines (start + 1) more ++ others)) =
        some (inner, close, others) ∧
      close.index = start + more.length ∧
      headerStatements header inner.isEmpty = front ∧
      said (inner.tail.filterMap interiorStatement?) = own := by
  cases laid with
  | oneLine reads plain row unbraced =>
    exact ⟨[], ⟨start, header⟩, splitAtClose?_of_both _ reads plain row unbraced, rfl,
      headerStatements_of_closed reads plain row unbraced, rfl⟩
  | opened reads plain row behind =>
    rcases behind.exists_split (start + 1) others with ⟨inner, close, split, ends, interior⟩
    refine ⟨⟨start, header⟩ :: inner, close, ?_, by omega,
      headerStatements_of_row reads plain row, interior⟩
    rw [splitAtClose?_of_opens _ reads plain row.unbraced, split]
    rfl
  | @openedBelow _ opening idle lines _ _ plain nothing brace behind =>
    rcases behind.exists_split (start + 1 + idle.length + 1) others with
      ⟨inner, close, split, ends, interior⟩
    refine ⟨⟨start, header⟩ :: (numberLines (start + 1) idle ++
      ⟨start + 1 + idle.length, opening⟩ :: inner), close, ?_, ?_,
      headerStatements_of_unbraced plain _, ?_⟩
    · rw [splitAtClose?_cons _ plain (by decide), numberLines_append, numberLines,
        List.append_assoc, splitAtClose?_passes _ (unbraced_of_mem_numberLines nothing) (by decide),
        List.cons_append,
        @splitAtClose?_of_opens [] [] _ _ brace ⟨List.not_mem_nil, List.not_mem_nil⟩
          ⟨List.not_mem_nil, List.not_mem_nil⟩, split]
      rfl
    · simp only [List.length_append, List.length_cons]
      omega
    · have alone : interiorStatement? ⟨start + 1 + idle.length, opening⟩ = none := by
        rw [interiorStatement?_eq, isBraceOnly, brace]
        rfl
      rw [List.tail_cons, List.filterMap_append, filterMap_numberLines_of_idle nothing,
        List.nil_append, List.filterMap_cons_none alone, interior]
  | @below _ line inside rest idle _ plain nothing reads row unbraced =>
    refine ⟨⟨start, header⟩ :: numberLines (start + 1) idle, ⟨start + 1 + idle.length, line⟩, ?_,
      ?_, headerStatements_of_unbraced plain _, ?_⟩
    · rw [splitAtClose?_cons _ plain (by decide), numberLines_append, numberLines, numberLines,
        List.append_assoc, splitAtClose?_passes _ (unbraced_of_mem_numberLines nothing) (by decide),
        List.cons_append, @splitAtClose?_of_both [] _ _ _ _ _ reads
          ⟨List.not_mem_nil, List.not_mem_nil⟩ row unbraced]
      simp
    · simp only [List.length_append, List.length_cons, List.length_nil]
      omega
    · rw [List.tail_cons, filterMap_numberLines_of_idle nothing]
      rfl

end LaidOut

/-- Of a flat block anywhere in a script, the statements behind the opening brace on the header and
those on lines of their own are extracted, each once and in their order.  These are all statements
of the block exactly if none stands in front of a closing brace below the header. -/
theorem extract_laidOut {header : Text} {more front own last : List Text}
    (laid : LaidOut (header :: more) front own last) (before after : List Text) :
    ∃ block, extractFrom (before ++ header :: (more ++ after)) before.length header = .ok block ∧
      locate? (before ++ header :: (more ++ after)) before.length = some (.ok (found block)) ∧
      block.endIndex = before.length + more.length ∧ said block.body = front ++ own ∧
      (said block.body = front ++ own ++ last ↔ last = []) := by
  rcases laid.exists_split before.length (numberLines (before.length + 1 + more.length) after) with
    ⟨inner, close, split, ends, first, interior⟩
  have here : (before ++ header :: (more ++ after))[before.length]? = some header := by simp
  have extracted : extractFrom (before ++ header :: (more ++ after)) before.length header =
      .ok ⟨front.map (⟨before.length, ·⟩) ++ inner.tail.filterMap interiorStatement?, close.index,
        numberLines (before.length + 1 + more.length) after⟩ := by
    have behind :
        (before ++ header :: (more ++ after)).drop (before.length + 1) = more ++ after := by simp
    rw [extractFrom, behind, numberLines_append, extract, split, ← first]
  have body : said (front.map (⟨before.length, ·⟩) ++ inner.tail.filterMap interiorStatement?) =
      front ++ own := by
    rw [said, List.map_append, ← said, ← said, said_of_simple laid.isSimple_front, interior]
  exact ⟨_, extracted, by rw [locate?_eq here, extracted]; rfl, ends, body, by simp [body]⟩

instance (text : Text) : Decidable (Unbraced text) :=
  inferInstanceAs (Decidable (_ ∧ _))

instance (statement : Text) : Decidable (IsSimple statement) :=
  decidable_of_iff _ (isSimple_iff statement).symm

/-- A statement on the header and one on a line of its own, behind a blank line. -/
theorem extract_laidOut_of_opened :
    let header := "for (i) \x7b a = 1;".toList
    let more := ["", " b = 2; // last", "\x7d"].map String.toList
    LaidOut (header :: more) ["a = 1".toList] ["b = 2".toList] [] ∧
      ∃ block, extractFrom ([] ++ header :: (more ++ [])) 0 header = .ok block ∧
        said block.body = ["a = 1".toList, "b = 2".toList] := by
  intro header more
  have reads : stripStatement header = "for (i) ".toList ++ '\x7b' :: " a = 1".toList := by
    decide +kernel
  have row : Row " a = 1".toList ["a = 1".toList] :=
    @Row.single "a = 1".toList (by decide +kernel) [' '] [] (List.forall_mem_singleton.mpr rfl)
  have close : Rest ["\x7d".toList] [] [] :=
    @Rest.close "\x7d".toList [] [] [] (by decide +kernel) (.blank (by simp)) (by decide)
  have own : Rest more ["b = 2".toList] [] :=
    .idle (by decide +kernel) (@Rest.own " b = 2; // last".toList _ _ _ (by decide +kernel) close)
  have laid : LaidOut (header :: more) ["a = 1".toList] ["b = 2".toList] [] :=
    .opened reads (by decide) row own
  rcases extract_laidOut laid [] [] with ⟨block, extracted, -, -, -, all⟩
  exact ⟨laid, block, extracted, all.mpr rfl⟩

/-- A statement in front of a closing brace on a line below the header is lost. -/
theorem not_extract_laidOut_of_below :
    let header := "for (let i = 0; i < 3; i++) \x7b".toList
    let line := "s = s + i \x7d".toList
    LaidOut [header, line] [] [] ["s = s + i".toList] ∧
      ∃ block, extractFrom [header, line] 0 header = .ok block ∧ said block.body = [] := by
  intro header line
  have row : Row "s = s + i ".toList ["s = s + i".toList] :=
    @Row.single "s = s + i".toList (by decide +kernel) [] [' '] (List.forall_mem_singleton.mpr rfl)
  have close : Rest [line] [] ["s = s + i".toList] :=
    @Rest.close line "s = s + i ".toList [] _ (by decide +kernel) row (by decide)
  have reads : stripStatement header = "for (let i = 0; i < 3; i++) ".toList ++ ['\x7b'] := by
    decide +kernel
  exact ⟨.opened reads (by decide) (.blank (by simp)) close, ⟨[], 1, []⟩,
    by decide +kernel, rfl⟩

end Block

end StepScript

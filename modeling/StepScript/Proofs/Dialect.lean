import Mathlib
import StepScript.Dialect
import StepScript.Text.Lines
import StepScript.Proofs.Statement.Form

/-!
# Where a construct occurs

A construct of another dialect stands in a script where the script goes on with it and does not
continue a word (`Rule.StandsIn`).  The scan finds the first rule whose construct stands anywhere,
and what it accepts it accepts line by line (`violation?_decides`).

Two facts carry the second half.  Which line ends part two lines makes no difference to the scan
(`Rule.occursFrom_of_respaced`), and since a line end is no word character, no construct is seen at
the edge of some lines that the whole script does not hold (`Rule.StandsIn.surround`).
-/

namespace StepScript

namespace Text

/-- A place at which no word goes on: the end of a text, or a character that is in no word. -/
def BreaksWord (text : Text) : Prop :=
  ∀ char ∈ text.head?, isWord char = false

/-- A place behind which a word can begin: the start of a text, or a character that is in no
word. -/
def AfterWord (text : Text) : Prop :=
  ∀ char ∈ text.getLast?, isWord char = false

theorem afterWord_iff {text : Text} :
    AfterWord text ↔ text.getLast?.any isWord = false := by
  cases found : text.getLast? <;> simp [AfterWord, found]

/-- Lines that a text holds one after the other, with line ends between them. -/
inductive Holds : List Text → Text → Prop where
  | nothing : Holds [] []
  | last (line : Text) : Holds [line] line
  | more (line : Text) {next mark text : Text} {rest : List Text} (parts : mark ≠ [])
      (ends : ∀ char ∈ mark, isLineEnd char = true) (holds : Holds (next :: rest) text) :
      Holds (line :: next :: rest) (line ++ (mark ++ text))

/-- Two texts that are alike but for the line ends that they have in the same places. -/
inductive Respaced : Text → Text → Prop where
  | nothing : Respaced [] []
  | same (char : Char) {text other : Text} (rest : Respaced text other) :
      Respaced (char :: text) (char :: other)
  | mark {char charToo : Char} {text other : Text} (ends : isLineEnd char = true)
      (endsToo : isLineEnd charToo = true) (rest : Respaced text other) :
      Respaced (char :: text) (charToo :: other)
  | left {char next : Char} {text other : Text} (ends : isLineEnd char = true)
      (endsToo : isLineEnd next = true) (rest : Respaced (next :: text) other) :
      Respaced (char :: next :: text) other
  | right {char next : Char} {text other : Text} (ends : isLineEnd char = true)
      (endsToo : isLineEnd next = true) (rest : Respaced text (next :: other)) :
      Respaced text (char :: next :: other)

theorem isWord_of_isLineEnd {char : Char} (ends : isLineEnd char = true) :
    isWord char = false := by
  by_contra word
  rw [Bool.not_eq_false] at word
  exact absurd ends (by simp [isLineEnd_of_isWord word])

theorem after?_append (start rest : Text) : after? start (start ++ rest) = some rest := by
  induction start with
  | nil => rfl
  | cons char start ih => simpa [after?] using ih

/-! ## Lines that are held -/

theorem BreaksWord.of_mark {mark : Text} (ends : ∀ char ∈ mark, isLineEnd char = true) :
    BreaksWord mark :=
  fun char first => isWord_of_isLineEnd (ends char (List.mem_of_head? first))

theorem BreaksWord.append {text rest : Text} (broken : BreaksWord text)
    (brokenToo : BreaksWord rest) : BreaksWord (text ++ rest) := by
  cases text with
  | nil => exact brokenToo
  | cons char text => exact broken

theorem BreaksWord.append_of_ne_nil {text : Text} (broken : BreaksWord text) (spoken : text ≠ [])
    (rest : Text) : BreaksWord (text ++ rest) := by
  obtain ⟨char, text, rfl⟩ := List.exists_cons_of_ne_nil spoken
  exact broken

theorem AfterWord.append {front text : Text} (broken : AfterWord front)
    (brokenToo : AfterWord text) : AfterWord (front ++ text) := by
  intro char last
  rcases eq_or_ne text [] with rfl | content
  · exact broken char (by simpa using last)
  · exact brokenToo char (by rwa [List.getLast?_append_of_ne_nil _ content] at last)

theorem AfterWord.of_mark {mark : Text} (parts : mark ≠ [])
    (ends : ∀ char ∈ mark, isLineEnd char = true) (line : Text) : AfterWord (line ++ mark) := by
  intro char last
  rw [List.getLast?_append_of_ne_nil _ parts] at last
  exact isWord_of_isLineEnd (ends char (List.mem_of_getLast? last))

namespace Holds

theorem intercalate (lines : List Text) : Holds lines (List.intercalate ['\n'] lines) := by
  induction lines with
  | nil => exact .nothing
  | cons line lines ih =>
    cases lines with
    | nil => simpa using Holds.last line
    | cons next lines =>
      have feed : ∀ char ∈ ['\n'], isLineEnd char = true := by simp [isLineEnd]
      rw [List.intercalate_cons_cons, List.append_assoc]
      exact .more line (by simp) feed ih

/-- What stands in front of the later ones of some lines ends no word there. -/
theorem drop {front rest : List Text} {text : Text} (holds : Holds (front ++ rest) text)
    (remain : rest ≠ []) :
    ∃ before behind, text = before ++ behind ∧ AfterWord before ∧ Holds rest behind := by
  induction front generalizing text with
  | nil => exact ⟨[], text, rfl, by simp [AfterWord], holds⟩
  | cons line front ih =>
    obtain ⟨next, more, same⟩ := List.exists_cons_of_ne_nil
      (List.append_ne_nil_of_right_ne_nil front remain)
    rw [List.cons_append, same] at holds
    cases holds with
    | more _ parts ends holds =>
      rename_i mark text
      obtain ⟨before, behind, rfl, broken, later⟩ := ih (same ▸ holds)
      exact ⟨line ++ mark ++ before, behind, by simp, (AfterWord.of_mark parts ends line).append
        broken, later⟩

/-- What stands behind the earlier ones of some lines continues no word. -/
theorem take {front rest : List Text} {text : Text} (holds : Holds (front ++ rest) text)
    (remain : front ≠ []) :
    ∃ before behind, text = before ++ behind ∧ Holds front before ∧ BreaksWord behind := by
  induction front generalizing text with
  | nil => exact absurd rfl remain
  | cons line front ih =>
    cases front with
    | nil =>
      cases holds with
      | last => exact ⟨line, [], by simp, .last line, by simp [BreaksWord]⟩
      | more _ parts ends holds =>
        exact ⟨line, _, rfl, .last line, (BreaksWord.of_mark ends).append_of_ne_nil parts _⟩
    | cons next front =>
      cases holds with
      | more _ parts ends holds =>
        obtain ⟨before, behind, rfl, earlier, broken⟩ := ih holds (by simp)
        exact ⟨line ++ (_ ++ before), behind, by simp, .more line parts ends earlier, broken⟩

end Holds

/-- A script is its lines with line ends between them, and possibly a line end behind them. -/
theorem holds_lines (script : Text) :
    ∃ text mark, script = text ++ mark ∧ Holds (lines script) text ∧
      ∀ char ∈ mark, isLineEnd char = true := by
  have opened (mark : Text) {rest : Text} (parts : mark ≠ [])
      (ends : ∀ char ∈ mark, isLineEnd char = true)
      (ih : ∃ text mark, rest = text ++ mark ∧ Holds (lines rest) text ∧
        ∀ char ∈ mark, isLineEnd char = true) :
      ∃ text other, mark ++ rest = text ++ other ∧ Holds ([] :: lines rest) text ∧
        ∀ char ∈ other, isLineEnd char = true := by
    obtain ⟨text, behind, rfl, holds, last⟩ := ih
    cases found : lines (text ++ behind) with
    | nil =>
      rw [found] at holds
      cases holds
      exact ⟨[], mark ++ behind, rfl, .last [], List.forall_mem_append.mpr ⟨ends, last⟩⟩
    | cons next more =>
      exact ⟨[] ++ (mark ++ text), behind, by simp, .more [] parts ends (found ▸ holds), last⟩
  fun_induction lines script with
  | case1 => exact ⟨[], [], rfl, .nothing, by simp⟩
  | case2 rest ih => exact opened ['\r', '\n'] (by simp) (by simp [isLineEnd]) ih
  | case3 char rest plain ends ih => exact opened [char] (by simp) (by simpa using ends) ih
  | case4 char rest plain inside found ih =>
    obtain ⟨text, mark, rfl, holds, last⟩ := ih
    rw [found] at holds
    cases holds
    exact ⟨[char], mark, rfl, .last [char], last⟩
  | case5 char rest plain inside line more found ih =>
    obtain ⟨text, mark, rfl, holds, last⟩ := ih
    rw [found] at holds
    cases holds with
    | last => exact ⟨char :: line, mark, rfl, .last _, last⟩
    | more _ parts ends holds =>
      exact ⟨_, mark, rfl, .more (char :: line) parts ends holds, last⟩

/-! ## Other line ends -/

namespace Respaced

variable {text other : Text} {char charToo : Char}

theorem refl (text : Text) : Respaced text text := by
  induction text with
  | nil => exact .nothing
  | cons char text ih => exact .same char ih

/-- Line ends in front of both texts make no difference, however many they are. -/
theorem marks {mark markToo : Text} (parts : mark ≠ []) (partsToo : markToo ≠ [])
    (ends : ∀ char ∈ mark, isLineEnd char = true)
    (endsToo : ∀ char ∈ markToo, isLineEnd char = true)
    (rest : Respaced text other) : Respaced (mark ++ text) (markToo ++ other) := by
  obtain ⟨char, mark, rfl⟩ := List.exists_cons_of_ne_nil parts
  obtain ⟨charToo, markToo, rfl⟩ := List.exists_cons_of_ne_nil partsToo
  rw [List.forall_mem_cons] at ends endsToo
  obtain ⟨first, ends⟩ := ends
  obtain ⟨firstToo, endsToo⟩ := endsToo
  clear parts partsToo
  induction mark generalizing char with
  | cons next mark ih =>
    rw [List.forall_mem_cons] at ends
    exact .left first ends.1 (ih next ends.1 ends.2)
  | nil =>
    induction markToo generalizing charToo with
    | cons next markToo ih =>
      rw [List.forall_mem_cons] at endsToo
      exact .right firstToo endsToo.1 (ih next endsToo.1 endsToo.2)
    | nil => exact .mark first firstToo rest

theorem append (front : Text) (rest : Respaced text other) :
    Respaced (front ++ text) (front ++ other) := by
  induction front with
  | nil => exact rest
  | cons char front ih => exact .same char ih

theorem append_append {more moreToo : Text} (front : Respaced text other)
    (behind : Respaced more moreToo) : Respaced (text ++ more) (other ++ moreToo) := by
  induction front with
  | nothing => exact behind
  | same char _ ih => exact .same char ih
  | mark ends endsToo _ ih => exact .mark ends endsToo ih
  | left ends endsToo _ ih => exact .left ends endsToo ih
  | right ends endsToo _ ih => exact .right ends endsToo ih

/-- Two texts that hold the same lines. -/
theorem of_holds {lines : List Text} (holds : Holds lines text) (holdsToo : Holds lines other) :
    Respaced text other := by
  induction holds generalizing other with
  | nothing =>
    cases holdsToo
    exact .nothing
  | last line =>
    cases holdsToo
    exact refl line
  | more line parts ends _ ih =>
    cases holdsToo with
    | more _ partsToo endsToo holdsToo =>
      exact append line (marks parts partsToo ends endsToo (ih holdsToo))

/-- Nothing that tells line ends apart from other characters alone tells the first characters
apart. -/
theorem head? {α : Type} {tells : Char → α} {ending : α}
    (blind : ∀ char, isLineEnd char = true → tells char = ending)
    (respaced : Respaced text other) : text.head?.map tells = other.head?.map tells := by
  induction respaced with
  | nothing => rfl
  | same char => rfl
  | mark ends endsToo => simp [blind _ ends, blind _ endsToo]
  | left ends endsToo _ ih => simpa [blind _ ends, blind _ endsToo] using ih
  | right ends endsToo _ ih => simpa [blind _ ends, blind _ endsToo] using ih

/-- Behind a word stands the same but for the line ends. -/
theorem after? {word : Text} (inside : ∀ char ∈ word, isLineEnd char = false)
    (respaced : Respaced text other) :
    Option.Rel Respaced (Text.after? word text) (Text.after? word other) := by
  induction word generalizing text other with
  | nil => exact .some respaced
  | cons first word ih =>
    rw [List.forall_mem_cons] at inside
    have apart {char : Char} (ends : isLineEnd char = true) : first ≠ char := by
      rintro rfl
      simp [inside.1] at ends
    induction respaced with
    | nothing => exact .none
    | same char rest =>
      by_cases found : first = char
      · simpa [Text.after?, found] using ih inside.2 rest
      · simp [Text.after?, found]
    | mark ends endsToo => simp [Text.after?, apart ends, apart endsToo]
    | left ends endsToo _ unmarked =>
      simpa [Text.after?, apart ends, apart endsToo] using unmarked
    | right ends endsToo _ unmarked =>
      simpa [Text.after?, apart ends, apart endsToo] using unmarked

/-- The same follows the blanks that the texts begin with. -/
theorem head?_dropWhile (respaced : Respaced text other) :
    (text.dropWhile isBlank).head? = (other.dropWhile isBlank).head? := by
  induction respaced with
  | nothing => rfl
  | same char rest ih =>
    by_cases blank : isBlank char = true
    · simpa [blank] using ih
    · simp [blank]
  | mark ends endsToo rest ih =>
    simpa [isBlank_of_isLineEnd ends, isBlank_of_isLineEnd endsToo] using ih
  | left ends _ _ ih | right ends _ _ ih =>
    rw [List.dropWhile_cons_of_pos (isBlank_of_isLineEnd ends), ih]

end Respaced

end Text

namespace Dialect

/-! ## Constructs -/

/-- A text begins with the construct of a rule. -/
inductive Rule.Opens : Rule → Text → Prop where
  | selfAccess (rest : Text) : Opens .selfAccess ("self.".toList ++ rest)
  | definition {blank : Char} (space : Text.isBlank blank = true) (rest : Text) :
      Opens .definition ("def".toList ++ blank :: rest)
  | classBody {blank : Char} (space : Text.isBlank blank = true) (rest : Text) :
      Opens .classBody ("class".toList ++ blank :: rest)
  | capitalizedConstant {word : String} {rest : Text} (known : word ∈ ["True", "False", "None"])
      (ends : Text.BreaksWord rest) : Opens .capitalizedConstant (word.toList ++ rest)
  | printCall {gap : Text} (space : ∀ char ∈ gap, Text.isBlank char = true) (rest : Text) :
      Opens .printCall ("print".toList ++ (gap ++ '(' :: rest))
  | rangeCall (rest : Text) : Opens .rangeCall ("range(".toList ++ rest)

/-- The construct of a rule stands somewhere in a script, at a place that continues no word. -/
def Rule.StandsIn (rule : Rule) (script : Text) : Prop :=
  ∃ before behind, script = before ++ behind ∧ Text.AfterWord before ∧ rule.Opens behind

namespace Rule

variable {rule : Rule} {text other : Text}

theorem wordThen_append (word : String) (accepts : Char → Bool) (char : Char) (rest : Text) :
    wordThen word accepts (word.toList ++ char :: rest) = accepts char := by
  rw [wordThen, Text.after?_append]

theorem wordThen_iff {word : String} {accepts : Char → Bool} :
    wordThen word accepts text = true ↔
      ∃ char rest, accepts char = true ∧ text = word.toList ++ char :: rest := by
  constructor
  · intro begins
    rw [wordThen] at begins
    split at begins
    · rename_i char rest found
      exact ⟨char, rest, begins, Text.eq_append_of_after? found⟩
    · cases begins
  · rintro ⟨char, rest, accepted, rfl⟩
    rwa [wordThen_append]

theorem wholeWord_iff {word : String} :
    wholeWord word text = true ↔ ∃ rest, Text.BreaksWord rest ∧ text = word.toList ++ rest := by
  constructor
  · intro begins
    rw [wholeWord] at begins
    split at begins
    · rename_i found
      exact ⟨[], by simp [Text.BreaksWord], Text.eq_append_of_after? found⟩
    · rename_i char rest found
      exact ⟨char :: rest, by simpa [Text.BreaksWord] using begins, Text.eq_append_of_after? found⟩
    · cases begins
  · rintro ⟨rest, broken, rfl⟩
    rw [wholeWord, Text.after?_append]
    cases rest with
    | nil => rfl
    | cons char rest => simpa [Text.BreaksWord] using broken

theorem startsAt_printCall_iff :
    startsAt .printCall text = true ↔
      ∃ gap rest, (∀ char ∈ gap, Text.isBlank char = true) ∧
        text = "print".toList ++ (gap ++ '(' :: rest) := by
  constructor
  · intro begins
    rw [startsAt] at begins
    split at begins
    · rename_i rest found
      obtain ⟨behind, opened⟩ := List.head?_eq_some_iff.mp (beq_iff_eq.mp begins)
      refine ⟨rest.takeWhile Text.isBlank, behind, fun char => List.mem_takeWhile_imp, ?_⟩
      rw [← opened, List.takeWhile_append_dropWhile, ← Text.eq_append_of_after? found]
    · cases begins
  · rintro ⟨gap, rest, space, rfl⟩
    have opened : Text.isBlank '(' = false := by decide
    simp only [startsAt, Text.after?_append]
    rw [List.dropWhile_append_of_pos space, List.dropWhile_cons_of_neg (by simp [opened])]
    simp

/-- Whether a text begins with a construct is decided as it is specified. -/
theorem startsAt_iff : rule.startsAt text = true ↔ rule.Opens text := by
  constructor
  · intro begins
    cases rule with
    | selfAccess =>
      obtain ⟨char, rest, dot, rfl⟩ := wordThen_iff.mp begins
      rw [beq_iff_eq.mp dot]
      exact .selfAccess rest
    | definition =>
      obtain ⟨char, rest, space, rfl⟩ := wordThen_iff.mp begins
      exact .definition space rest
    | classBody =>
      obtain ⟨char, rest, space, rfl⟩ := wordThen_iff.mp begins
      exact .classBody space rest
    | capitalizedConstant =>
      simp only [startsAt, Bool.or_eq_true, wholeWord_iff, or_assoc] at begins
      obtain ⟨rest, ends, rfl⟩ | ⟨rest, ends, rfl⟩ | ⟨rest, ends, rfl⟩ := begins <;>
        exact .capitalizedConstant (by simp) ends
    | printCall =>
      obtain ⟨gap, rest, space, rfl⟩ := startsAt_printCall_iff.mp begins
      exact .printCall space rest
    | rangeCall =>
      obtain ⟨char, rest, opened, rfl⟩ := wordThen_iff.mp begins
      rw [beq_iff_eq.mp opened]
      exact .rangeCall rest
  · intro opens
    cases opens with
    | selfAccess rest => exact wordThen_append "self" (· == '.') '.' rest
    | definition space rest => exact (wordThen_append "def" Text.isBlank _ rest).trans space
    | classBody space rest => exact (wordThen_append "class" Text.isBlank _ rest).trans space
    | @capitalizedConstant word rest known ends =>
      have whole : wholeWord word (word.toList ++ rest) = true :=
        wholeWord_iff.mpr ⟨rest, ends, rfl⟩
      simp only [List.mem_cons, List.not_mem_nil, or_false] at known
      simp only [startsAt, Bool.or_eq_true, or_assoc]
      rcases known with rfl | rfl | rfl
      · exact .inl whole
      · exact .inr (.inl whole)
      · exact .inr (.inr whole)
    | printCall space rest => exact startsAt_printCall_iff.mpr ⟨_, rest, space, rfl⟩
    | rangeCall rest => exact wordThen_append "range" (· == '(') '(' rest

/-- The characters with which constructs begin. -/
def initials : List Char :=
  ['s', 'd', 'c', 'T', 'F', 'N', 'p', 'r']

theorem Opens.head (opens : rule.Opens text) :
    ∃ char rest, text = char :: rest ∧ char ∈ initials := by
  cases opens with
  | selfAccess rest => exact ⟨'s', _, rfl, by decide⟩
  | definition _ rest => exact ⟨'d', _, rfl, by decide⟩
  | classBody _ rest => exact ⟨'c', _, rfl, by decide⟩
  | capitalizedConstant known _ =>
    simp only [List.mem_cons, List.not_mem_nil, or_false] at known
    rcases known with rfl | rfl | rfl
    · exact ⟨'T', _, rfl, by decide⟩
    · exact ⟨'F', _, rfl, by decide⟩
    · exact ⟨'N', _, rfl, by decide⟩
  | printCall _ rest => exact ⟨'p', _, rfl, by decide⟩
  | rangeCall rest => exact ⟨'r', _, rfl, by decide⟩

theorem startsAt_of_notMem {char : Char} (idle : char ∉ initials) :
    rule.startsAt (char :: text) = false := by
  by_contra begins
  rw [Bool.not_eq_false, startsAt_iff] at begins
  obtain ⟨first, rest, same, known⟩ := begins.head
  cases same
  exact idle known

/-- What follows a construct makes no difference to it, unless it goes on with a word. -/
theorem Opens.append (opens : rule.Opens text) (broken : Text.BreaksWord other) :
    rule.Opens (text ++ other) := by
  cases opens with
  | selfAccess rest => exact .selfAccess (rest ++ other)
  | definition space rest => exact .definition space (rest ++ other)
  | classBody space rest => exact .classBody space (rest ++ other)
  | capitalizedConstant known ends =>
    rw [List.append_assoc]
    exact .capitalizedConstant known (ends.append broken)
  | printCall space rest => simpa using Opens.printCall space (rest ++ other)
  | rangeCall rest => exact .rangeCall (rest ++ other)

/-- The scan finds the places behind something at which a construct begins. -/
theorem occursFrom_iff {before : Text} :
    rule.occursFrom (before.getLast?.any Text.isWord) text = true ↔
      ∃ between behind, text = between ++ behind ∧ Text.AfterWord (before ++ between) ∧
        rule.Opens behind := by
  induction text generalizing before with
  | nil =>
    constructor
    · intro found
      cases found
    · rintro ⟨between, behind, split, -, opens⟩
      obtain ⟨char, rest, rfl, -⟩ := opens.head
      simp at split
  | cons char text ih =>
    have next : (before ++ [char]).getLast?.any Text.isWord = Text.isWord char := by simp
    rw [occursFrom, Bool.or_eq_true, ← next, ih, Bool.and_eq_true, startsAt_iff, Bool.not_eq_true',
      ← Text.afterWord_iff]
    constructor
    · rintro (⟨outside, opens⟩ | ⟨between, behind, rfl, broken, opens⟩)
      · exact ⟨[], _, rfl, by rwa [List.append_nil], opens⟩
      · exact ⟨char :: between, behind, rfl, by simpa using broken, opens⟩
    · rintro ⟨between, behind, split, broken, opens⟩
      cases between with
      | nil => exact .inl ⟨by rwa [List.append_nil] at broken, split ▸ opens⟩
      | cons first between =>
        obtain ⟨rfl, rfl⟩ := List.cons_eq_cons.mp split
        exact .inr ⟨between, behind, rfl, by simpa using broken, opens⟩

/-- The scan for a construct decides whether it stands in a script. -/
theorem occurs_iff {script : Text} : rule.occurs script = true ↔ rule.StandsIn script :=
  @occursFrom_iff rule script []

/-! ## Parts of a script -/

/-- A construct that stands in a part of a text stands in the text, where no word goes on at the
edges of the part. -/
theorem StandsIn.surround {before behind : Text} (stands : rule.StandsIn text)
    (broken : Text.AfterWord before) (brokenToo : Text.BreaksWord behind) :
    rule.StandsIn (before ++ (text ++ behind)) := by
  obtain ⟨front, rest, rfl, outside, opens⟩ := stands
  exact ⟨before ++ front, rest ++ behind, by simp, broken.append outside, opens.append brokenToo⟩

/-- Behind characters with which no construct begins, the scan goes on. -/
theorem occursFrom_append {front : Text} (idle : ∀ char ∈ front, char ∉ initials) (inside : Bool) :
    rule.occursFrom inside (front ++ text) =
      rule.occursFrom (front.getLast?.elim inside Text.isWord) text := by
  induction front generalizing inside with
  | nil => rfl
  | cons char front ih =>
    rw [List.forall_mem_cons] at idle
    rw [List.cons_append, occursFrom, startsAt_of_notMem idle.1, Bool.and_false, Bool.false_or,
      ih idle.2]
    cases front <;> simp [List.getLast?_cons]

theorem startsAt_of_isBlank {blank : Char} (space : Text.isBlank blank = true) :
    rule.startsAt (blank :: text) = false := by
  have visible : initials.all (!Text.isBlank ·) = true := by decide
  refine startsAt_of_notMem fun known => ?_
  have seen := List.all_eq_true.mp visible blank known
  simp [space] at seen

theorem wordThen_of_respaced {word : String} {accepts : Char → Bool} {ending : Bool}
    (inside : ∀ char ∈ word.toList, Text.isLineEnd char = false)
    (blind : ∀ char, Text.isLineEnd char = true → accepts char = ending)
    (respaced : Text.Respaced text other) :
    wordThen word accepts text = wordThen word accepts other := by
  have rests := respaced.after? inside
  rw [wordThen, wordThen]
  generalize Text.after? word.toList text = found, Text.after? word.toList other = foundToo at rests
  cases rests with
  | none => rfl
  | @some rest restToo respaced =>
    have heads := respaced.head? blind
    cases rest <;> cases restToo <;> simp_all

theorem wholeWord_of_respaced {word : String}
    (inside : ∀ char ∈ word.toList, Text.isLineEnd char = false)
    (respaced : Text.Respaced text other) : wholeWord word text = wholeWord word other := by
  have rests := respaced.after? inside
  rw [wholeWord, wholeWord]
  generalize Text.after? word.toList text = found, Text.after? word.toList other = foundToo at rests
  cases rests with
  | none => rfl
  | @some rest restToo respaced =>
    have heads := respaced.head? fun _ => Text.isWord_of_isLineEnd
    cases rest <;> cases restToo <;> simp_all

theorem startsAt_of_respaced (respaced : Text.Respaced text other) :
    rule.startsAt text = rule.startsAt other := by
  have apart {mark : Char} (inside : Text.isLineEnd mark = false) (char : Char)
      (ends : Text.isLineEnd char = true) : (char == mark) = false := by
    rw [beq_eq_false_iff_ne]
    rintro rfl
    simp [inside] at ends
  cases rule with
  | selfAccess =>
    exact wordThen_of_respaced (by simp [Text.isLineEnd]) (apart (by decide)) respaced
  | definition =>
    exact wordThen_of_respaced (by simp [Text.isLineEnd]) (fun _ => Text.isBlank_of_isLineEnd)
      respaced
  | classBody =>
    exact wordThen_of_respaced (by simp [Text.isLineEnd]) (fun _ => Text.isBlank_of_isLineEnd)
      respaced
  | capitalizedConstant =>
    have whole {word : String} (inside : ∀ char ∈ word.toList, Text.isLineEnd char = false) :
        wholeWord word text = wholeWord word other := wholeWord_of_respaced inside respaced
    rw [startsAt, startsAt, whole (by simp [Text.isLineEnd]), whole (by simp [Text.isLineEnd]),
      whole (by simp [Text.isLineEnd])]
  | printCall =>
    have inside : ∀ char ∈ "print".toList, Text.isLineEnd char = false := by simp [Text.isLineEnd]
    have rests := respaced.after? inside
    rw [startsAt, startsAt]
    generalize Text.after? "print".toList text = found, Text.after? "print".toList other = foundToo
      at rests
    cases rests with
    | none => rfl
    | some respaced => simp only [respaced.head?_dropWhile]
  | rangeCall =>
    exact wordThen_of_respaced (by simp [Text.isLineEnd]) (apart (by decide)) respaced

/-- Which line ends part the lines of a text makes no difference to the scan. -/
theorem occursFrom_of_respaced (respaced : Text.Respaced text other) (inside : Bool) :
    rule.occursFrom inside text = rule.occursFrom inside other := by
  have passed {char : Char} (ends : Text.isLineEnd char = true) (inside : Bool) (rest : Text) :
      rule.occursFrom inside (char :: rest) = rule.occursFrom false rest := by
    rw [occursFrom, startsAt_of_isBlank (Text.isBlank_of_isLineEnd ends),
      Text.isWord_of_isLineEnd ends, Bool.and_false, Bool.false_or]
  induction respaced generalizing inside with
  | nothing => rfl
  | same char rest ih => rw [occursFrom, occursFrom, startsAt_of_respaced (.same char rest), ih]
  | mark ends endsToo _ ih => rw [passed ends, passed endsToo, ih]
  | left ends endsToo _ ih => rw [passed ends, ← ih, passed endsToo, passed endsToo]
  | right ends endsToo _ ih => rw [passed ends, ih, passed endsToo, passed endsToo]

theorem StandsIn.of_holds {script part : Text} {range : List Text}
    (within : range <:+: Text.lines script) (holds : Text.Holds range part)
    (stands : rule.StandsIn part) : rule.StandsIn script := by
  rcases eq_or_ne range [] with rfl | content
  · cases holds
    obtain ⟨front, rest, split, -, opens⟩ := stands
    obtain ⟨char, rest, rfl, -⟩ := opens.head
    simp at split
  obtain ⟨earlier, later, all⟩ := within
  obtain ⟨text, mark, rfl, whole, ends⟩ := Text.holds_lines script
  rw [← all, List.append_assoc] at whole
  obtain ⟨before, rest, rfl, broken, whole⟩ :=
    whole.drop (List.append_ne_nil_of_left_ne_nil content _)
  obtain ⟨original, behind, rfl, whole, brokenToo⟩ := whole.take content
  have stands : rule.StandsIn original := by
    rw [← occurs_iff, occurs, occursFrom_of_respaced (.of_holds whole holds)]
    exact occurs_iff.mpr stands
  simpa using stands.surround broken (brokenToo.append (.of_mark ends))

end Rule

/-- For the scan only the lines of a script count, and whether it ends with a line end. -/
theorem exists_violation?_eq (script : Text) : ∃ ending ∈ [[], ['\n']],
    violation? script = violation? (List.intercalate ['\n'] (Text.lines script) ++ ending) := by
  obtain ⟨text, mark, split, holds, ends⟩ := Text.holds_lines script
  have front := Text.Respaced.of_holds holds (.intercalate (Text.lines script))
  have same {other : Text} (respaced : Text.Respaced script other) :
      violation? script = violation? other := by
    have each (rule : Rule) : rule.occurs script = rule.occurs other :=
      Rule.occursFrom_of_respaced respaced false
    simp only [violation?, each]
  rcases eq_or_ne mark [] with rfl | parts
  · refine ⟨[], by simp, same ?_⟩
    simpa [split] using front
  · refine ⟨['\n'], by simp, same ?_⟩
    have last := Text.Respaced.marks parts (List.cons_ne_nil '\n' []) ends
      (by simp [Text.isLineEnd]) .nothing
    simpa [← split] using front.append_append last

/-- The scan finds the first rule whose construct stands in a script, and nothing if none does.  Of
a script in which it finds nothing, it finds nothing in any lines that follow each other. -/
theorem violation?_decides (script : Text) :
    (∀ rule, violation? script = some rule ↔
      rule.StandsIn script ∧ ∃ before behind, Rule.all = before ++ rule :: behind ∧
        ∀ other ∈ before, ¬other.StandsIn script) ∧
    (violation? script = none ↔ ∀ rule : Rule, ¬rule.StandsIn script) ∧
    (violation? script = none → ∀ range, range <:+: Text.lines script →
      ∀ part, Text.Holds range part → violation? part = none) := by
  have decides (text : Text) : violation? text = none ↔ ∀ rule : Rule, ¬rule.StandsIn text := by
    simp only [violation?, List.find?_eq_none, Rule.occurs_iff]
    exact ⟨fun none rule => none rule (by cases rule <;> decide), fun none rule _ => none rule⟩
  refine ⟨fun rule => ?_, decides script, fun accepted range within part holds => ?_⟩
  · simp only [violation?, List.find?_eq_some_iff_append, Rule.occurs_iff, Bool.not_eq_true',
      ← Bool.not_eq_true]
  · rw [decides] at accepted ⊢
    exact fun rule stands => accepted rule (stands.of_holds within holds)

/-- Two of three accepted lines are accepted, also where another line end parts them. -/
theorem violation?_decides_of_assignments :
    violation? "let x = 1\r\nx = 2\r\nx = 3".toList = none ∧
      ["x = 2".toList, "x = 3".toList] <:+: Text.lines "let x = 1\r\nx = 2\r\nx = 3".toList ∧
      violation? (List.intercalate ['\n'] ["x = 2".toList, "x = 3".toList]) = none := by
  have accepted : violation? "let x = 1\r\nx = 2\r\nx = 3".toList = none := by cbv
  have within : ["x = 2".toList, "x = 3".toList] <:+:
      Text.lines "let x = 1\r\nx = 2\r\nx = 3".toList := ⟨["let x = 1".toList], [], by cbv⟩
  refine ⟨accepted, within, ?_⟩
  exact (violation?_decides _).2.2 accepted _ within _ (.intercalate _)

end Dialect

end StepScript

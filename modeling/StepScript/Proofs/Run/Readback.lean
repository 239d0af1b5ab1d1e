import StepScript.Proofs.Expression.Naming
import StepScript.Proofs.Padding.Script
import StepScript.Proofs.Run.Course

/-!
# Reading a declared name back

A script of two lines declares a name and reads it.  Whether it completes with the declared value
hangs on the name alone (`Engine.readsBack_iff`): it has to be one that an expression can read.
-/

namespace StepScript

/-- The line that declares a name with the value five. -/
def declaring (name : Text) : Text :=
  "let ".toList ++ name ++ " = 5".toList

/-- The line that reads a name. -/
def reading (name : Text) : Text :=
  "y = ".toList ++ name

/-- The script that declares a name and reads it. -/
def readingBack (name : Text) : Text :=
  declaring name ++ '\n' :: reading name

/-- A run of the script completes with the declared value. -/
def ReadsBack (name : Text) : Prop :=
  ∃ ended result, Engine.new.run (readingBack name) none (fun _ => false) = (ended, .ok result) ∧
    result.outcome = .completed ∧
      Environment.find? "y".toList result.environment = some (.number 5)

/-! ## The lines of the script -/

namespace Form.Name

variable (name : Form.Name)

/-- A declared value of one digit. -/
def five : Form.Expression where
  text := ['5']
  spoken := by decide
  trimmed := by decide
  oneLine := by decide
  uncommented := by decide
  unended := by decide

theorem classify_declaring :
    classify (declaring name.text) = .ok (.declaration name.text ['5'] .letWord) := by
  have body : declaring name.text = Form.body (.declaration .letWord name five) := by
    simp [declaring, Form.body, Keyword.spelling, five]
  rw [body]
  exact Form.classify_of_body _ (Form.stripStatement_body _)

theorem classify_reading :
    classify (reading name.text) = .ok (.assignment ['y'] name.text none) := by
  have body : reading name.text =
      Form.body (.assignment ⟨'y', [], by decide, by simp⟩ name.expression) := by
    simp [reading, Form.body, expression, text]
  rw [body]
  exact Form.classify_of_body _ (Form.stripStatement_body _)

end Form.Name

namespace Form.Name

variable (name : Form.Name)

theorem lines_readingBack : Text.lines (readingBack name.text) =
    [declaring name.text, reading name.text] := by
  have word : ∀ char ∈ name.text, Text.isLineEnd char = false :=
    fun _ member => Text.isLineEnd_of_isWord (name.isWord_of_mem member)
  have first : IsLine (declaring name.text) := by
    have front : ∀ char ∈ "let ".toList ++ " = 5".toList, Text.isLineEnd char = false := by
      simp [Text.isLineEnd]
    intro char member
    simp only [declaring, List.mem_append, or_assoc] at member
    rcases member with keyword | named | value
    · exact front char (List.mem_append_left _ keyword)
    · exact word char named
    · exact front char (List.mem_append_right _ value)
  have second : IsLine (reading name.text) := by
    have front : ∀ char ∈ "y = ".toList, Text.isLineEnd char = false := by
      simp [Text.isLineEnd]
    intro char member
    rcases List.mem_append.mp member with target | named
    · exact front char target
    · exact word char named
  rw [readingBack, Text.lines_append first, Text.lines_of_isLine second]
  simp [Text.withoutEmptyEnd, reading]

variable {name}

/-- The second line assigns the value of the name, and the run fails if there is none. -/
theorem run_readingBack (accepted : Dialect.violation? (readingBack name.text) = none) :
    ∃ ended result,
      Engine.new.run (readingBack name.text) none (fun _ => false) = (ended, .ok result) ∧
      match evaluateText name.text [(name.text, .number 5)] with
      | .ok value => result.outcome = .completed ∧
        Environment.find? "y".toList result.environment = some value
      | .error _ => result.outcome.phase = .failed := by
  let declared : Line := ⟨0, declaring name.text⟩
  let read : Line := ⟨1, reading name.text⟩
  let bound : Machine := { Machine.started.visit false declared with
    environment := [(name.text, .number 5)] }
  have first : step .standard .started (.top [declared, read]) =
      .go (some .declare) bound (.top [read]) := by
    refine Step.step_of_rule (@Step.Rule.declared _ _ .top _ _ _ _ _ _
      name.classify_declaring ?_ ?_)
    · simp [Step.Exhausted, Limits.standard, Machine.started, Machine.record, Machine.initial]
    · rfl
  let shown : Machine := (bound.showing .declare).1
  have within : ¬Step.Exhausted .standard shown := by
    simp [Step.Exhausted, Limits.standard, shown, bound, Machine.showing, Machine.snapshot,
      Machine.visit, Machine.started, Machine.record, Machine.initial]
  have numbered : numberLines 0 (Text.lines (readingBack name.text)) = [declared, read] := by
    rw [lines_readingBack]
    rfl
  cases evaluated : evaluateText name.text [(name.text, .number 5)] with
  | ok value =>
    let changed : Machine := { shown.visit false read with
      environment := Environment.bind "y".toList value [(name.text, .number 5)]
      arrayName := if value.isArray then some "y".toList else none }
    have assigned : (shown.visit false read).assign "y".toList name.text none = .ok changed := by
      have same : evaluateText name.text (shown.visit false read).environment = .ok value :=
        evaluated
      rw [Machine.assign, same]
      rfl
    have second : step .standard shown (.top [read]) = .go (some .assign) changed (.top []) :=
      Step.step_of_rule (@Step.Rule.assigned _ _ .top _ _ _ _ _ _ name.classify_reading within
        assigned)
    have course : Course Engine.new.limits (fun _ => false) .started
        (.top (numberLines 0 (Text.lines (readingBack name.text))))
        [(bound.showing .declare).2, (changed.showing .assign).2]
        (.finished (changed.showing .assign).1) :=
      numbered ▸ .shown first rfl (.shown second rfl (.finished rfl))
    rcases Engine.run_ok_of_course rfl accepted course rfl with ⟨ended, ran⟩
    exact ⟨ended, _, ran, rfl, Environment.find?_bind_self _ _ _⟩
  | error cause =>
    have failed : (shown.visit false read).assign "y".toList name.text none = .error cause := by
      have same : evaluateText name.text (shown.visit false read).environment = .error cause :=
        evaluated
      rw [Machine.assign, same]
    have second : step .standard shown (.top [read]) = .fault (shown.visit false read) cause :=
      Step.step_of_rule (@Step.Rule.assignmentFault _ _ .top _ _ _ _ _ _ name.classify_reading
        within failed)
    have course : Course Engine.new.limits (fun _ => false) .started
        (.top (numberLines 0 (Text.lines (readingBack name.text))))
        [(bound.showing .declare).2] (.faulted (shown.visit false read) cause) :=
      numbered ▸ .shown first rfl (.faulted second)
    rcases Engine.run_ok_of_course rfl accepted course rfl with ⟨ended, ran⟩
    exact ⟨ended, _, ran, rfl⟩

theorem readsBack_of_readable (accepted : Dialect.violation? (readingBack name.text) = none)
    (readable : Readable name.text) : ReadsBack name.text := by
  have evaluated : evaluateText name.text [(name.text, .number 5)] = .ok (.number 5) := by
    rw [evaluateText_eq_lookUp readable.unreserved readable.sound, readable.normal]
    simp [Tree.lookUp, Environment.find?]
  rcases run_readingBack accepted with ⟨ended, result, ran, completed⟩
  rw [evaluated] at completed
  exact ⟨ended, result, ran, completed⟩

/-- A name that the expression does not find bound to the declared value is not read back. -/
theorem not_readsBack (accepted : Dialect.violation? (readingBack name.text) = none)
    (lost : evaluateText name.text [(name.text, .number 5)] ≠ .ok (.number 5)) :
    ¬ReadsBack name.text := by
  rintro ⟨ended, result, ran, completed, bound⟩
  rcases run_readingBack accepted with ⟨_, _, ranToo, found⟩
  rw [ran] at ranToo
  cases ranToo
  cases evaluated : evaluateText name.text [(name.text, .number 5)] with
  | ok value =>
    rw [evaluated] at found
    rw [bound] at found
    exact lost (evaluated.trans (congrArg _ (Option.some.inj found.2).symm))
  | error cause =>
    rw [evaluated, completed] at found
    cases found

theorem readable_of_evaluateText
    (found : evaluateText name.text [(name.text, .number 5)] = .ok (.number 5)) :
    Readable name.text := by
  have unreserved : name.text ∉ Token.reservedWords := by
    intro reserved
    rcases evaluateText_of_reserved reserved [(name.text, .number 5)] with ⟨cause, failed⟩
    cases found.symm.trans failed
  cases bad : Token.badCharacter? name.text with
  | some offset => cases found.symm.trans (evaluateText_of_badCharacter unreserved bad _)
  | none =>
    refine ⟨unreserved, bad, ?_⟩
    rw [evaluateText_eq_lookUp unreserved bad] at found
    by_contra other
    rw [Tree.lookUp, Environment.find?, if_neg (Ne.symm other)] at found
    simp only [Environment.find?] at found
    split at found
    · cases found
    · split at found <;> cases found

end Form.Name

namespace Engine

/-- A declared name is read back exactly if an expression can read it: it is none of the reserved
words, its characters are those of names, and it is its own normal form. -/
theorem readsBack_iff {name expression : Text} {keyword : Keyword}
    (declared : classify (declaring name) = .ok (.declaration name expression keyword))
    (accepted : Dialect.violation? (readingBack name) = none) :
    ReadsBack name ↔ Readable name := by
  rcases Form.Name.exists_of_classify declared with ⟨word, rfl⟩
  refine ⟨fun back => ?_, Form.Name.readsBack_of_readable accepted⟩
  by_contra unreadable
  exact Form.Name.not_readsBack accepted
    (fun found => unreadable (Form.Name.readable_of_evaluateText found)) back

/-- A name with a letter beyond ASCII is read back. -/
theorem readsBack_of_foreign : ReadsBack "größe".toList :=
  (@readsBack_iff "größe".toList ['5'] .letWord rfl (by decide +kernel)).mpr (by decide +kernel)

/-- The word `in` can be declared, and is not read back. -/
theorem not_readsBack_of_reserved :
    ¬∀ name expression keyword,
      classify (declaring name) = .ok (.declaration name expression keyword) →
      Dialect.violation? (readingBack name) = none → ReadsBack name := by
  intro all
  let word : Form.Name := ⟨'i', ['n'], by decide, List.forall_mem_singleton.mpr (by decide)⟩
  have accepted : Dialect.violation? (readingBack word.text) = none := by decide +kernel
  refine Form.Name.not_readsBack accepted ?_ (all _ _ _ word.classify_declaring accepted)
  intro found
  exact (Form.Name.readable_of_evaluateText found).unreserved (by decide +kernel)

end Engine

end StepScript

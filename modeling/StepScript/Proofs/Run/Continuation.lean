import StepScript.Proofs.Run.Shape

/-!
# Lines behind a script

A step asks what stands in front of it, and of the lines behind a script it sees nothing: a block
that is closed is closed by the same line whatever comes later, and a condition takes the first line
behind it as its consequence (`step_append`).  Only a condition that ends a script would take its
consequence from elsewhere.  A run of a longer script therefore begins with the run of the shorter
one, and goes on where that has ended.
-/

namespace StepScript

namespace Block

theorem splitAtClose?_append {depth : Int} {opened : Bool} {lines before after : List Line}
    {close : Line} (split : splitAtClose? depth opened lines = some (before, close, after))
    (more : List Line) :
    splitAtClose? depth opened (lines ++ more) = some (before, close, after ++ more) := by
  rw [eq_append_of_splitAtClose? split, List.append_assoc, List.cons_append]
  exact splitAtClose?_replace split (after ++ more)

/-- A block that is closed does not grow by lines behind it. -/
theorem extract_append {header : Line} {following : List Line} {block : Block}
    (extracted : extract header following = .ok block) (more : List Line) :
    extract header (following ++ more) = .ok { block with after := block.after ++ more } := by
  unfold extract at extracted
  split at extracted
  · simp at extracted
  next before close after split =>
    cases Except.ok.inj extracted
    unfold extract
    rw [← List.cons_append, splitAtClose?_append split more]

end Block

/-! ## Steps in front of more lines -/

namespace Control

/-- The control point with more lines at the end of the script. -/
def append (more : List Line) : Control → Control
  | .top rest => .top (rest ++ more)
  | .test frame value after => .test frame value (after ++ more)
  | .body frame rest after => .body frame rest (after ++ more)

/-- Outside of loops, in front of a condition behind which the script has no consequence. -/
def LacksConsequence : Control → Prop
  | .top (line :: rest) =>
    (∃ condition, classify line.text = .ok (.conditional condition)) ∧
      (rest.dropWhile fun line => isBraceOnly line.text) = []
  | _ => False

end Control

namespace Place

/-- The place with more lines at the end of the script. -/
def append (more : List Line) : Place → Place
  | .top => .top
  | .body frame after => .body frame (after ++ more)

/-- The lines in front of which a place stands when the script has more lines. -/
def ahead (more : List Line) : Place → List Line → List Line
  | .top, lines => lines ++ more
  | .body _ _, lines => lines

variable (place : Place) (more : List Line)

theorem control_append (lines : List Line) :
    (place.control lines).append more = (place.append more).control (place.ahead more lines) := by
  cases place <;> rfl

theorem ahead_cons (line : Line) (lines : List Line) :
    place.ahead more (line :: lines) = line :: place.ahead more lines := by
  cases place <;> rfl

theorem inBody_append : (place.append more).inBody = place.inBody := by
  cases place <;> rfl

theorem ignores_append (found : Statement) :
    (place.append more).ignores found = place.ignores found := by
  cases found <;> cases place <;> rfl

theorem arrive_append (holds : Bool) (line : Line) (machine : Machine) :
    machine.arrive holds (place.append more) line = machine.arrive holds place line := by
  rw [Machine.arrive, Machine.arrive, inBody_append]

end Place

namespace Step

variable {limits : Limits} {machine : Machine}

theorem Judged.append {place : Place} {line next : Line} {more rest : List Line} {condition : Text}
    {value : Value} (judged : Judged limits machine line more condition value (next :: rest))
    (extra : List Line) :
    Judged limits machine line (place.ahead extra more) condition value
      (next :: place.ahead extra rest) := by
  cases place with
  | body frame after => exact judged
  | top =>
    refine ⟨judged.classified, judged.within, judged.evaluated, ?_⟩
    show ((more ++ extra).dropWhile fun line => isBraceOnly line.text) = next :: (rest ++ extra)
    rw [List.dropWhile_append, judged.behind_eq]
    rfl

/-- A step that goes on goes on in the same way when the script has more lines. -/
theorem rule_append {control reached : Control} {event : Option Event} {changed : Machine}
    (rule : Rule limits machine control (.go event changed reached))
    (covered : ¬control.LacksConsequence) (extra : List Line) :
    Rule limits machine (control.append extra) (.go event changed (reached.append extra)) := by
  cases rule with
  | @silent place line more found classified silent =>
    simp only [Place.control_append, Place.ahead_cons]
    exact .silent classified silent
  | @ignored place line more found classified ignored within =>
    rw [← place.ignores_append extra] at ignored
    simp only [Place.control_append, Place.ahead_cons, ← place.inBody_append extra]
    exact .ignored classified ignored within
  | @declared place line more name expression keyword _ classified within declared =>
    rw [← place.inBody_append extra] at declared
    simp only [Place.control_append, Place.ahead_cons]
    exact .declared classified within declared
  | @assigned place line more name expression index _ classified within assigned =>
    rw [← place.inBody_append extra] at assigned
    simp only [Place.control_append, Place.ahead_cons]
    exact .assigned classified within assigned
  | @conditionLast place line more condition value judged =>
    cases place with
    | top => exact absurd ⟨⟨condition, judged.classified⟩, judged.behind_eq⟩ covered
    | body frame after => exact @Rule.conditionLast _ _ (.body frame _) _ _ _ _ judged
  | @consequenceAssigned place line next more rest condition name expression index value _ judged
      consequence holds withinNext assigned =>
    rw [← place.inBody_append extra] at assigned withinNext
    simp only [Place.control_append, Place.ahead_cons]
    exact .consequenceAssigned (judged.append extra) consequence holds withinNext assigned
  | @consequencePassed place line next more rest condition value found judged consequence withinNext
      idle flat =>
    rw [← place.inBody_append extra] at withinNext flat
    simp only [Place.control_append, Place.ahead_cons, ← place.inBody_append extra,
      ← place.arrive_append extra]
    exact .consequencePassed (judged.append extra) consequence withinNext idle flat
  | consequenceBlock judged consequence withinNext extracted =>
    have judged := @judged.append _ _ .top _ _ _ _ _ _ extra
    exact .consequenceBlock judged consequence withinNext (Block.extract_append extracted extra)
  | loopEntered classified within extracted started =>
    exact .loopEntered classified within (Block.extract_append extracted extra) started
  | loopLeft ended => exact .loopLeft ended
  | roundBegun goesOn within begun => exact .roundBegun goesOn within begun
  | incremented ended => exact .incremented ended

end Step

/-- More lines at the end of a script change no step that goes on, unless a condition lacks its
consequence. -/
theorem step_append {limits : Limits} {machine changed : Machine} {control reached : Control}
    {event : Option Event} (goes : step limits machine control = .go event changed reached)
    (covered : ¬control.LacksConsequence) (extra : List Line) :
    step limits machine (control.append extra) = .go event changed (reached.append extra) :=
  Step.step_of_rule (Step.rule_append (Step.rule_of_step goes) covered extra)

/-! ## Courses in front of more lines -/

/-- Every condition that a run comes to outside of loops, if nobody stops it, has its consequence in
the script. -/
def Covered (limits : Limits) (machine : Machine) (control : Control) : Prop :=
  ∀ found met, Passes limits (fun _ => false) machine control found met → ¬met.LacksConsequence

variable {limits : Limits} {machine : Machine} {control : Control}

theorem Covered.here (covered : Covered limits machine control) : ¬control.LacksConsequence :=
  covered machine control (.here machine control)

theorem Covered.nil (limits : Limits) (machine : Machine) : Covered limits machine (.top []) := by
  intro found met passes
  cases passes with
  | here => exact id
  | silent goes | shown goes => simp [step] at goes

theorem Covered.of_shown {changed : Machine} {reached : Control} {event : Event}
    (goes : step limits machine control = .go (some event) changed reached)
    (here : ¬control.LacksConsequence)
    (rest : Covered limits (changed.showing event).1 reached) :
    Covered limits machine control := by
  intro found met passes
  cases passes with
  | here => exact here
  | silent goesToo => simp [goes] at goesToo
  | shown goesToo kept restToo =>
    cases goes.symm.trans goesToo
    exact rest found met restToo

/-- A course that finishes the lines of a script goes on with the lines behind it. -/
theorem Course.append {final : Machine} {extra : List Line} {shots later : List Snapshot}
    {ending : Ending}
    (course : Course limits (fun _ => false) machine control shots (.finished final))
    (covered : Covered limits machine control)
    (rest : Course limits (fun _ => false) final (.top extra) later ending) :
    Course limits (fun _ => false) machine (control.append extra) (shots ++ later) ending := by
  generalize equal : Ending.finished final = first at course
  induction course with
  | silent goes _ ih =>
    have passed := ih (fun found met passes => covered found met (.silent goes passes)) equal
    exact .silent (step_append goes covered.here extra) passed
  | shown goes kept _ ih =>
    have passed := ih (fun found met passes => covered found met (.shown goes kept passes)) equal
    exact .shown (step_append goes covered.here extra) kept passed
  | finished ends =>
    rcases Step.eq_of_finish ends with ⟨rfl, rfl⟩
    obtain rfl : final = _ := by simpa using equal
    exact rest
  | cancelled | faulted | broken => simp at equal

/-! ## Runs of longer scripts -/

theorem Ending.answer_append {lines : List Text} {ending : Ending} {before later : List Snapshot}
    {result : RunResult} (answered : ending.answer lines (before ++ later) = .ok result) :
    ∃ rest, ending.answer lines later = .ok rest ∧
      result = { rest with snapshots := before ++ rest.snapshots } := by
  unfold answer at answered ⊢
  split at answered
  next outcome reached =>
    refine ⟨_, rfl, ?_⟩
    rw [← Except.ok.inj answered, allShots, allShots, List.append_assoc]
  · simp at answered

namespace Engine

/-- An engine stands where the run of another one has come to the end of its script, as if that run
went on.  The last snapshot of the other run is not counted. -/
structure Resumes (ended resumed : Engine) : Prop where
  running : resumed.phase = .running
  unasked : resumed.cancelRequested = false
  environment : resumed.machine.environment = ended.machine.environment
  constants : resumed.machine.constants = ended.machine.constants
  steps : resumed.machine.steps = ended.machine.steps
  arrayName : resumed.machine.arrayName = ended.machine.arrayName
  frame : resumed.machine.frame = ended.machine.frame
  log : ended.machine.log = resumed.machine.log ++ [.completed]
  taken : ended.machine.taken = resumed.machine.taken + 1

theorem Resumes.of_concluding {ended resumed : Engine} (running : resumed.phase = .running)
    (unasked : resumed.cancelRequested = false)
    (left : ended.machine = (resumed.machine.concluding .completed .completed .completed
      .completed).1) : Resumes ended resumed := by
  rcases ended with ⟨limits, phase, wanted, delay, machine⟩
  subst left
  exact ⟨running, unasked, rfl, rfl, rfl, rfl, rfl, List.reverse_cons, rfl⟩

/-- A result begins with given snapshots and goes on as an engine does from a control point. -/
def GoesOn (resumed : Engine) (lines : List Text) (control : Control) (before : List Snapshot)
    (result : RunResult) : Prop :=
  ∃ left later, drive (fun _ => false) resumed (.suspended lines control) [] = (left, .ok later) ∧
    result = { later with snapshots := before ++ later.snapshots }

/-- A run of a longer script begins with the changes that the run of the shorter one shows, and goes
on at the first of the lines behind it where that run has ended. -/
theorem run_append {engine ended endedLonger : Engine} {script longer : Text} {more : List Text}
    {speed : Option Value} {result extended : RunResult}
    (lines : Text.lines longer = Text.lines script ++ more)
    (accepted : Dialect.violation? longer = none)
    (returned : engine.run script speed (fun _ => false) = (ended, .ok result))
    (completed : result.outcome.phase = .completed)
    (covered : Covered engine.limits .started (.top (numberLines 0 (Text.lines script))))
    (returnedLonger : engine.run longer speed (fun _ => false) = (endedLonger, .ok extended)) :
    ∃ resumed, resumed.limits = engine.limits ∧ Resumes ended resumed ∧
      resumed.machine.taken = result.changes.length ∧
      GoesOn resumed (Text.lines longer)
        (.top (numberLines (Text.lines script).length more)) result.changes extended := by
  rcases run_cases returned with
    ⟨rule, _, rfl, _⟩ | ⟨_, shots, ending, course, _, machine, answered⟩
  · simp [Outcome.rejected] at completed
  · rcases Ending.of_answer answered.symm with ⟨ends, all, _⟩
    have changes : result.changes = shots := RunResult.changes_eq course all
    have finished := Ending.eq_finished ends completed
    have taken : ending.machine.taken = shots.length := by
      simpa [Machine.started, Machine.record, Machine.initial] using course.seq_eq.2
    generalize ending.machine = final at finished taken
    subst finished
    have first : 0 + (Text.lines script).length = (Text.lines script).length := Nat.zero_add _
    rcases Course.total engine.limits (fun _ => false) final
      (.top (numberLines (Text.lines script).length more)) with ⟨later, last, rest⟩
    have whole := course.append covered rest
    rw [Control.append, ← first, ← numberLines_append, ← lines] at whole
    have answeredLonger := (concludes_of_course returnedLonger accepted whole).2.2
    rw [returnedLonger] at answeredLonger
    rcases Ending.answer_append answeredLonger.symm with ⟨behind, answeredLater, split⟩
    let resumed : Engine := { engine.cleared with phase := .running, machine := final }
    let ahead : Control := .top (numberLines (Text.lines script).length more)
    have resumes : resumed.next (.suspended (Text.lines longer) ahead) =
        resumed.advance (Text.lines longer) ahead := rfl
    have left : Concludes (Text.lines longer) ([].reverse ++ later) last
        (drive (fun _ => false) resumed (.suspended (Text.lines longer) ahead) []) :=
      drive_of_course rest resumed rfl rfl rfl rfl resumes
    refine ⟨resumed, rfl, ?_, taken.trans (congrArg List.length changes.symm), ?_⟩
    · exact .of_concluding rfl rfl machine
    · rw [changes]
      exact ⟨_, behind, Prod.ext rfl (left.2.2.trans answeredLater), split⟩

/-- Lines behind a condition that has its consequence: the changes stay, and the run goes on. -/
theorem run_append_of_condition :
    Text.lines "let a = []\nif (a)\na = a\nlet b = []".toList =
        Text.lines "let a = []\nif (a)\na = a".toList ++ ["let b = []".toList] ∧
      Dialect.violation? "let a = []\nif (a)\na = a\nlet b = []".toList = none ∧
      Covered new.limits .started
        (.top (numberLines 0 (Text.lines "let a = []\nif (a)\na = a".toList))) ∧
      ∃ ended endedLonger result extended,
        new.run "let a = []\nif (a)\na = a".toList none (fun _ => false) = (ended, .ok result) ∧
        result.outcome.phase = .completed ∧
        result.changes.map Snapshot.event = [.declare, .condition] ∧
        new.run "let a = []\nif (a)\na = a\nlet b = []".toList none (fun _ => false) =
          (endedLonger, .ok extended) ∧
        ∃ resumed, resumed.limits = new.limits ∧ Resumes ended resumed ∧
          resumed.machine.taken = result.changes.length ∧
          GoesOn resumed (Text.lines "let a = []\nif (a)\na = a\nlet b = []".toList)
            (.top (numberLines (Text.lines "let a = []\nif (a)\na = a".toList).length
              ["let b = []".toList])) result.changes extended := by
  let declared := (Machine.started.visit false ⟨0, "let a = []".toList⟩).written ['a'] (.array [])
  let judged := (declared.showing .declare).1.visit false ⟨1, "if (a)".toList⟩
  let assigned := (judged.visit false ⟨2, "a = a".toList⟩).written ['a'] (.array [])
  have declares : step .standard .started
      (.top (numberLines 0 (Text.lines "let a = []\nif (a)\na = a".toList))) =
      .go (some .declare) declared (.top [⟨1, "if (a)".toList⟩, ⟨2, "a = a".toList⟩]) := by cbv
  have assigns : step .standard (declared.showing .declare).1
      (.top [⟨1, "if (a)".toList⟩, ⟨2, "a = a".toList⟩]) =
      .go (some .condition) assigned (.top []) := rfl
  have course : Course .standard (fun _ => false) .started
      (.top (numberLines 0 (Text.lines "let a = []\nif (a)\na = a".toList)))
      [(declared.showing .declare).2, (assigned.showing .condition).2]
      (.finished (assigned.showing .condition).1) :=
    .shown declares rfl (.shown assigns rfl (.finished rfl))
  have covered : Covered .standard .started
      (.top (numberLines 0 (Text.lines "let a = []\nif (a)\na = a".toList))) := by
    refine .of_shown declares ?_ (.of_shown assigns ?_ (.nil _ _))
    · rintro ⟨⟨condition, classified⟩, _⟩
      have declaration : classify "let a = []".toList =
        .ok (.declaration ['a'] ['[', ']'] .letWord) := by cbv
      have same := declaration.symm.trans classified
      simp at same
    · rintro ⟨_, last⟩
      exact absurd last (by decide)
  let second := ((assigned.showing .condition).1.visit false ⟨3, "let b = []".toList⟩).written ['b']
    (.array [])
  have declaresToo : step .standard (assigned.showing .condition).1
      (.top [⟨3, "let b = []".toList⟩]) = .go (some .declare) second (.top []) := by cbv
  have long := course.append covered
    (.shown declaresToo rfl (.finished rfl))
  have idle : new.isRunning = false := rfl
  have accepted : Dialect.violation? "let a = []\nif (a)\na = a".toList = none := by cbv
  have acceptedToo : Dialect.violation? "let a = []\nif (a)\na = a\nlet b = []".toList = none := by
    cbv
  have lines : Text.lines "let a = []\nif (a)\na = a\nlet b = []".toList =
    Text.lines "let a = []\nif (a)\na = a".toList ++ ["let b = []".toList] := by cbv
  rcases run_ok_of_course idle accepted course rfl with ⟨ended, returned⟩
  rcases run_ok_of_course idle acceptedToo long rfl with ⟨endedLonger, returnedLonger⟩
  refine ⟨lines, acceptedToo, covered, ended, endedLonger, _, _, returned, rfl, ?_, returnedLonger,
    run_append lines acceptedToo returned rfl covered returnedLonger⟩
  rw [RunResult.changes_eq course rfl]
  rfl

end Engine

end StepScript

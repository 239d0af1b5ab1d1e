import StepScript.Proofs.Padding.Step
import StepScript.Proofs.Run.Course

/-!
# Runs of padded scripts

The run of a padded script is that of the script, with the lines at their places: it shows the same
snapshots and comes to the same outcome (`Engine.run_padded`).
-/

namespace StepScript

variable {place : Nat → Nat}

/-- Snapshots that show the same, with the lines at their places. -/
structure Snapshot.Mirrors (place : Nat → Nat) (shown other : Snapshot) : Prop where
  seq : other.seq = shown.seq
  event : other.event = shown.event
  line : other.line = shown.line.map place
  phase : other.phase = shown.phase
  environment : other.environment = shown.environment
  array : other.array = shown.array
  highlight : other.highlight = shown.highlight
  log : other.log.length = shown.log.length
  message : other.message = shown.message

/-- Results of runs that show the same and end alike, with the lines at their places. -/
structure RunResult.Mirrors (place : Nat → Nat) (result other : RunResult) : Prop where
  snapshots : List.Forall₂ (Snapshot.Mirrors place) result.snapshots other.snapshots
  phase : other.outcome.phase = result.outcome.phase
  message : other.outcome.message = result.outcome.message
  code : other.outcome.report.map Report.code = result.outcome.report.map Report.code

/-- Endings of the same kind, at machines that mirror each other. -/
inductive Ending.Mirrors (place : Nat → Nat) : Ending → Ending → Prop
  | finished {machine other : Machine} (mirrors : machine.Mirrors place other) :
      Mirrors place (.finished machine) (.finished other)
  | faulted {machine other : Machine} {cause otherCause : Fault}
      (mirrors : machine.Mirrors place other) (alike : cause.Alike otherCause) :
      Mirrors place (.faulted machine cause) (.faulted other otherCause)
  | broken {machine other : Machine} {cause : Breakdown} (mirrors : machine.Mirrors place other) :
      Mirrors place (.broken machine cause) (.broken other cause)

namespace Machine.Mirrors

variable {machine other : Machine}

theorem snapshot (mirrors : machine.Mirrors place other) (event : Event) (phase : Phase)
    (message : Option String) (report otherReport : Option Report) :
    Machine.Mirrors place (machine.snapshot event phase message report).1
        (other.snapshot event phase message otherReport).1 ∧
      Snapshot.Mirrors place (machine.snapshot event phase message report).2
        (other.snapshot event phase message otherReport).2 := by
  refine ⟨{ mirrors with taken := congrArg (· + 1) mirrors.taken }, ?_⟩
  exact
    { seq := congrArg (· + 1) mirrors.taken
      event := rfl
      line := mirrors.cursor
      phase := rfl
      environment := mirrors.environment
      array := mirrors.shownArray?
      highlight := mirrors.highlight
      log := List.length_reverse.trans (mirrors.entries.trans List.length_reverse.symm)
      message := rfl }

theorem concluding (mirrors : machine.Mirrors place other) (event : Event) (phase : Phase)
    {entry otherEntry : LogEntry} {outcome otherOutcome : Outcome}
    (message : otherOutcome.message = outcome.message) :
    Snapshot.Mirrors place (machine.concluding event phase entry outcome).2
      (other.concluding event phase otherEntry otherOutcome).2 := by
  have ended : Machine.Mirrors place
      ({ machine with cursor := none, highlight := none }.record entry)
      ({ other with cursor := none, highlight := none }.record otherEntry) :=
    { mirrors with
      cursor := rfl
      highlight := rfl
      entries := congrArg (· + 1) mirrors.entries }
  unfold Machine.concluding
  rw [message]
  exact (ended.snapshot event phase _ _ _).2

end Machine.Mirrors

/-! ## Courses -/

section Course

variable {limits : Limits} {cancels : Snapshot → Bool} {machine other : Machine}
  {control otherControl : Control} {shots : List Snapshot} {ending : Ending}

/-- A line of which nothing is left is passed without a trace. -/
theorem Course.of_inert {site : Place} {line : Line} {rest : List Line}
    (nothing : stripStatement line.text = [])
    (course : Course limits cancels machine (site.control rest) shots ending) :
    Course limits cancels machine (site.control (line :: rest)) shots ending := by
  have passed : Step.statement limits site.inBody site.control machine line rest =
      .go none machine (site.control rest) := by
    rcases classify_of_strip_nil nothing with ⟨statement, said, essence⟩
    rw [Step.statement, said]
    cases statement <;> simp_all [Statement.essence]
  cases site with
  | top => exact .silent passed course
  | body frame after => exact .silent passed course

/-- The inserted lines in front of a control point can be passed. -/
theorem Control.Mirrors.skip (controls : control.Mirrors place (Padded place) otherControl)
    (limits : Limits) (cancels : Snapshot → Bool) :
    ∃ reached, control.Mirrors place (Padded.Meets place) reached ∧
      ∀ {machine shots ending}, Course limits cancels machine reached shots ending →
        Course limits cancels machine otherControl shots ending := by
  cases controls with
  | test frames padded => exact ⟨_, .test frames padded, id⟩
  | @lines site otherSite rest otherRest sites padded =>
    induction padded with
    | nil => exact ⟨_, .lines sites .nil, id⟩
    | kept echoes rest => exact ⟨_, .lines sites (.cons echoes rest), id⟩
    | inert nothing rest ih =>
      rcases ih with ⟨reached, meets, passes⟩
      exact ⟨reached, meets, fun course => (passes course).of_inert nothing⟩

/-- A step in a script is mirrored in the padded one, behind the inserted lines that are next. -/
theorem Control.Mirrors.step (controls : control.Mirrors place (Padded place) otherControl)
    (ordered : StrictMono place) (mirrors : machine.Mirrors place other) {result : Step}
    (steps : StepScript.step limits machine control = result) (cancels : Snapshot → Bool) :
    ∃ next otherResult, StepScript.step limits other next = otherResult ∧
      result.Mirrors place otherResult ∧
      ∀ {shots ending}, Course limits cancels other next shots ending →
        Course limits cancels other otherControl shots ending := by
  rcases controls.skip limits cancels with ⟨next, meets, passes⟩
  exact ⟨next, _, rfl, steps ▸ step_mirrors ordered mirrors meets, passes⟩

theorem Course.mirrored (ordered : StrictMono place)
    (course : Course limits (fun _ => false) machine control shots ending)
    (mirrors : machine.Mirrors place other)
    (controls : control.Mirrors place (Padded place) otherControl) :
    ∃ otherShots otherEnding,
      Course limits (fun _ => false) other otherControl otherShots otherEnding ∧
      List.Forall₂ (Snapshot.Mirrors place) shots otherShots ∧
      ending.Mirrors place otherEnding := by
  induction course generalizing other otherControl with
  | silent goes rest ih =>
    rcases controls.step ordered mirrors goes (fun _ => false) with
      ⟨next, _, goesToo, steps, passes⟩
    cases steps with
    | go changes reaches =>
      rcases ih changes reaches with ⟨otherShots, otherEnding, otherCourse, shows, ends⟩
      exact ⟨otherShots, otherEnding, passes (.silent goesToo otherCourse), shows, ends⟩
  | @shown _ _ _ _ event _ _ goes kept rest ih =>
    rcases controls.step ordered mirrors goes (fun _ => false) with
      ⟨next, _, goesToo, steps, passes⟩
    cases steps with
    | go changes reaches =>
      rcases changes.snapshot event .running none none none with ⟨counted, shown⟩
      rcases ih counted reaches with ⟨otherShots, otherEnding, otherCourse, shows, ends⟩
      exact ⟨_, otherEnding, passes (.shown goesToo rfl otherCourse), .cons shown shows, ends⟩
  | cancelled goes stopped => simp at stopped
  | finished ends =>
    rcases controls.step ordered mirrors ends (fun _ => false) with
      ⟨next, _, endsToo, steps, passes⟩
    cases steps with
    | finish finishes => exact ⟨[], _, passes (.finished endsToo), .nil, .finished finishes⟩
  | faulted fails =>
    rcases controls.step ordered mirrors fails (fun _ => false) with
      ⟨next, _, failsToo, steps, passes⟩
    cases steps with
    | fault stops alike => exact ⟨[], _, passes (.faulted failsToo), .nil, .faulted stops alike⟩
  | broken breaks =>
    rcases controls.step ordered mirrors breaks (fun _ => false) with
      ⟨next, _, breaksToo, steps, passes⟩
    cases steps with
    | breakdown stops => exact ⟨[], _, passes (.broken breaksToo), .nil, .broken stops⟩

end Course

/-! ## Whole runs -/

/-- Faults that are alike lead to outcomes with the same message and code. -/
theorem Ending.failure_alike {lines otherLines : List Text} {machine other : Machine}
    {cause otherCause : Fault} (alike : cause.Alike otherCause) :
    (failure otherLines other otherCause).message = (failure lines machine cause).message ∧
      (failure otherLines other otherCause).report.map Report.code =
        (failure lines machine cause).report.map Report.code := by
  simp [failure, Outcome.failed, Report.ofFault, alike.1, alike.2]

theorem Ending.Mirrors.answer {lines otherLines : List Text} {shots otherShots : List Snapshot}
    {ending otherEnding : Ending} {result other : RunResult}
    (shows : List.Forall₂ (Snapshot.Mirrors place) shots otherShots)
    (ends : ending.Mirrors place otherEnding)
    (answered : ending.answer lines shots = .ok result)
    (answeredToo : otherEnding.answer otherLines otherShots = .ok other) :
    result.Mirrors place other := by
  cases ends with
  | finished mirrors =>
    rw [← Except.ok.inj answered, ← Except.ok.inj answeredToo]
    exact ⟨List.rel_append shows (.cons (mirrors.concluding _ _ rfl) .nil), rfl, rfl, rfl⟩
  | @faulted machine otherMachine cause otherCause mirrors alike =>
    rw [← Except.ok.inj answered, ← Except.ok.inj answeredToo]
    rcases failure_alike alike with ⟨message, code⟩
    have stopped : Machine.Mirrors place { machine with frame := none }
        { otherMachine with frame := none } := { mirrors with }
    exact ⟨List.rel_append shows (.cons (stopped.concluding _ _ message) .nil), rfl, message, code⟩
  | broken mirrors => simp [Ending.answer, Ending.outcome] at answered

/-- Filler behind the lines of a script and inert lines between them do not change what its run
shows, but for the numbers of the lines. -/
theorem Engine.run_padded {engine other ended otherEnded : Engine} {lines padded : List Text}
    {speed otherSpeed : Option Value} {result otherResult : RunResult}
    (areLines : ∀ line ∈ lines, IsLine line) (areLinesToo : ∀ line ∈ padded, IsLine line)
    (padding : Padding lines padded place) (limits : other.limits = engine.limits)
    (accepted : Dialect.violation? (List.intercalate ['\n'] lines) = none)
    (acceptedToo : Dialect.violation? (List.intercalate ['\n'] padded) = none)
    (returned : engine.run (List.intercalate ['\n'] lines) speed (fun _ => false) =
      (ended, .ok result))
    (returnedToo : other.run (List.intercalate ['\n'] padded) otherSpeed (fun _ => false) =
      (otherEnded, .ok otherResult)) :
    result.Mirrors place otherResult := by
  rcases run_cases returned with ⟨rule, violated, _⟩ | ⟨_, shots, ending, course, _, _, answered⟩
  · simp [accepted] at violated
  · have started : Machine.started.Mirrors place .started :=
      ⟨rfl, rfl, rfl, rfl, rfl, rfl, rfl, rfl⟩
    have controls : Control.Mirrors place (Padded place)
        (.top (numberLines 0 (Text.lines (List.intercalate ['\n'] lines))))
        (.top (numberLines 0 (Text.lines (List.intercalate ['\n'] padded)))) := by
      rw [Text.lines_intercalate areLines, Text.lines_intercalate areLinesToo]
      exact .lines .top padding.withoutEmptyEnd.numberLines
    rcases course.mirrored padding.ordered started controls with
      ⟨otherShots, otherEnding, otherCourse, shows, ends⟩
    rw [← limits] at otherCourse
    have answeredToo := (concludes_of_course returnedToo acceptedToo otherCourse).2.2
    rw [returnedToo] at answeredToo
    exact ends.answer shows answered.symm answeredToo.symm

/-- A declaration between a comment and a semicolon with a comment, both with braces. -/
theorem Engine.run_padded_of_declaration :
    (∀ line ∈ ["let a = []".toList], IsLine line) ∧
    (∀ line ∈ ["// \x7b".toList, "let a = []; // \x7d".toList], IsLine line) ∧
    Padding ["let a = []".toList] ["// \x7b".toList, "let a = []; // \x7d".toList] (· + 1) ∧
    new.limits = new.limits ∧
    Dialect.violation? (List.intercalate ['\n'] ["let a = []".toList]) = none ∧
    Dialect.violation?
      (List.intercalate ['\n'] ["// \x7b".toList, "let a = []; // \x7d".toList]) = none ∧
    ∃ ended otherEnded result otherResult,
      new.run (List.intercalate ['\n'] ["let a = []".toList]) none (fun _ => false) =
        (ended, .ok result) ∧
      new.run (List.intercalate ['\n'] ["// \x7b".toList, "let a = []; // \x7d".toList]) none
        (fun _ => false) = (otherEnded, .ok otherResult) ∧
      result.snapshots.map Snapshot.line = [some 0, none] ∧
      otherResult.snapshots.map Snapshot.line = [some 1, none] ∧
      result.Mirrors (· + 1) otherResult := by
  let declared := (Machine.started.visit false ⟨0, "let a = []".toList⟩).written ['a'] (.array [])
  let otherDeclared :=
    (Machine.started.visit false ⟨1, "let a = []; // \x7d".toList⟩).written ['a'] (.array [])
  have declares : step .standard .started
      (.top (numberLines 0 (Text.lines (List.intercalate ['\n'] ["let a = []".toList])))) =
      .go (some .declare) declared (.top []) := by cbv
  have passes : step .standard .started (.top (numberLines 0 (Text.lines
      (List.intercalate ['\n'] ["// \x7b".toList, "let a = []; // \x7d".toList])))) =
      .go none .started (.top [⟨1, "let a = []; // \x7d".toList⟩]) := by cbv
  have declaresToo : step .standard .started (.top [⟨1, "let a = []; // \x7d".toList⟩]) =
      .go (some .declare) otherDeclared (.top []) := by cbv
  have course : Course .standard (fun _ => false) .started
      (.top (numberLines 0 (Text.lines (List.intercalate ['\n'] ["let a = []".toList]))))
      [(declared.showing .declare).2] (.finished (declared.showing .declare).1) :=
    .shown declares rfl (.finished rfl)
  have otherCourse : Course .standard (fun _ => false) .started (.top (numberLines 0 (Text.lines
      (List.intercalate ['\n'] ["// \x7b".toList, "let a = []; // \x7d".toList]))))
      [(otherDeclared.showing .declare).2] (.finished (otherDeclared.showing .declare).1) :=
    .silent passes (.shown declaresToo rfl (.finished rfl))
  have accepted : Dialect.violation? (List.intercalate ['\n'] ["let a = []".toList]) = none := by
    cbv
  have acceptedToo : Dialect.violation?
      (List.intercalate ['\n'] ["// \x7b".toList, "let a = []; // \x7d".toList]) = none := by cbv
  have padding :
      Padding ["let a = []".toList] ["// \x7b".toList, "let a = []; // \x7d".toList] (· + 1) := by
    constructor
    · exact fun first second less => Nat.succ_lt_succ less
    · rintro (_ | index) line found
      · cases found
        exact ⟨"; // \x7d".toList, ⟨[';'], " // \x7d".toList, rfl, by simp [Text.isPadding],
          .inr ⟨_, rfl⟩⟩, rfl⟩
      · simp at found
    · rintro (_ | _ | index) line found unplaced
      · cases found
        exact ⟨[], _, rfl, by simp, .inr ⟨_, rfl⟩⟩
      · exact absurd rfl (unplaced 0 (by decide))
      · simp at found
  have isLine : ∀ line ∈ ["let a = []", "// \x7b", "let a = []; // \x7d"].map String.toList,
      IsLine line := by
    have ends : (["let a = []", "// \x7b", "let a = []; // \x7d"].map String.toList).all
        (fun line => line.all fun char => !Text.isLineEnd char) = true := by cbv
    simpa only [IsLine, List.all_eq_true, Bool.not_eq_true'] using ends
  have areLines : ∀ line ∈ ["let a = []".toList], IsLine line :=
    fun line member => List.mem_singleton.mp member ▸ isLine _ List.mem_cons_self
  have areLinesToo : ∀ line ∈ ["// \x7b".toList, "let a = []; // \x7d".toList], IsLine line :=
    fun line member => isLine line (List.mem_cons_of_mem _ member)
  have idle : new.isRunning = false := rfl
  rcases run_ok_of_course idle accepted course rfl with ⟨ended, returned⟩
  rcases run_ok_of_course idle acceptedToo otherCourse rfl with ⟨otherEnded, returnedToo⟩
  exact ⟨areLines, areLinesToo, padding, rfl, accepted, acceptedToo, ended, otherEnded, _, _,
    returned, returnedToo, rfl, rfl,
    run_padded areLines areLinesToo padding rfl accepted acceptedToo returned returnedToo⟩

end StepScript

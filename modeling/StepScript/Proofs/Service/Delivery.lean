import StepScript.Proofs.Engine.Delivery
import StepScript.Proofs.Run.Operation
import StepScript.Proofs.Service.Request

/-!
# Agreement of the ways to be told of a run

A script can be run with all snapshots in one body, delivered line by line, taken from a stream, or
only be validated.  All of these tell of the same result (`Service.execute_agrees`).
-/

namespace StepScript

namespace Engine

variable {engine ended : Engine} {script : Text} {result : RunResult}

/-- The speed of a run does not change its result. -/
theorem run_of_paced {speed : Option Value} {delay : Float}
    (returned : engine.run script none (fun _ => false) = (ended, .ok result))
    (paced : pacing speed = .ok delay) :
    ∃ left, engine.run script speed (fun _ => false) = (left, .ok result) := by
  have idle := idle_of_run returned
  rcases run_cases returned with
    ⟨rule, violated, rfl, _⟩ | ⟨accepted, shots, ending, course, _, _, answered⟩
  · exact ⟨_, run_of_violation idle violated⟩
  · rcases run_of_course idle accepted paced course with ⟨_, _, answeredToo⟩
    exact ⟨_, Prod.ext rfl (answeredToo.trans answered.symm)⟩

end Engine

/-- No fault of a run is reported as a rejection. -/
theorem Fault.code_ne_rejected (cause : Fault) : cause.code ≠ .rejected := by
  cases cause <;> simp [Fault.code]

/-- An outcome that a run comes to in the course of its script reports no rejection. -/
theorem Ending.not_rejected {lines : List Text} {ending : Ending} {outcome : Outcome}
    {report : Report} (ends : ending.outcome lines = .ok outcome)
    (found : outcome.report = some report) : report.code ≠ .rejected := by
  cases ending with
  | finished | cancelled =>
    rw [← Except.ok.inj ends] at found
    simp [Outcome.completed, Outcome.cancelled] at found
  | faulted machine cause =>
    rw [← Except.ok.inj ends] at found
    rw [← Option.some.inj found]
    exact cause.code_ne_rejected
  | broken => simp [Ending.outcome] at ends

theorem FaultCode.word_eq_rejected {code : FaultCode} :
    code.word = "SYNTAX_REJECTED" ↔ code = .rejected := by
  cases code <;> simp [word]

namespace Service

variable {script : Text} {settings : Json} {engine ended : Engine} {result : RunResult}

/-- The lines that tell what the body of a run tells: its snapshots, and an outcome line with its
status, output and errors. -/
inductive TellsBody (answer : RunAnswer) : List Json → Prop
  | intro {status output errors : Json} (found : answer.fields.lookup "status" = some status)
      (said : answer.fields.lookup "output" = some output)
      (reported : answer.fields.lookup "errors" = some errors) :
      TellsBody answer (answer.snapshots.map Snapshot.toJson ++
        [.record [("outcome",
          .record [("status", status), ("message", output), ("error", errors)])]])

theorem RunAnswer.tellsBody {answer : RunAnswer} (returned : answer.result = .ok result) :
    TellsBody answer (result.items.map Item.toJson) := by
  have all : result.items.map Item.toJson = answer.snapshots.map Snapshot.toJson ++
      [.record [("outcome", result.outcome.toJson)]] := by
    simp [RunResult.items, RunAnswer.snapshots, returned, Item.toJson, Function.comp_def]
  rw [all]
  constructor <;> simp [RunAnswer.fields, returned, RunResult.fields, List.lookup]

/-- All ways to be told of a run on an engine tell of one result, whatever the speed.  Calls in
groups give the items of the run one after the other, and leave the engine that the run leaves.  A
reader who stops early has the first items, and leaves the engine cancelled if the last of them is a
snapshot that shows it running.  The validation finds fault with a script if the run does so before
it starts. -/
structure Agrees (script : Text) (settings : Json) (engine : Engine) (result : RunResult) :
    Prop where
  delivered : ∀ speed delay, pacing speed = .ok delay → ∀ scriptId store,
    ∃ left items, engine.deliver (.unstarted script speed) none [] = (left, .ok items) ∧
      items = result.items ∧
      TellsBody (run script settings scriptId store).2 (items.map Item.toJson)
  grouped : ∀ speed delay, pacing speed = .ok delay → ∃ ended,
    engine.run script speed (fun _ => false) = (ended, .ok result) ∧
    ∀ sizes, ∃ left rest,
      engine.pullGroups (some (.unstarted script speed)) sizes =
        .ok (groups sizes result.items, left, rest) ∧
      (result.items.length ≤ sizes.sum → left = ended ∧ rest = none)
  cut : ∀ speed delay, pacing speed = .ok delay → ∀ count, 1 ≤ count →
    ∃ left, engine.deliver (.unstarted script speed) (some count) [] =
        (left, .ok (result.items.take count)) ∧
      (left.phase = .cancelled ↔
        ∃ shown, result.items[count - 1]? = some (.snapshot shown) ∧ shown.phase = .running)
  validated : ∀ report, validate script = some report ↔
    result.outcome.report = some report ∧ report.code.word = "SYNTAX_REJECTED"

/-- The validation reports what a run reports as a rejection. -/
theorem validate_iff (returned : engine.run script none (fun _ => false) = (ended, .ok result))
    (report : Report) : validate script = some report ↔
      result.outcome.report = some report ∧ report.code.word = "SYNTAX_REJECTED" := by
  rw [FaultCode.word_eq_rejected, validate]
  rcases Engine.run_cases returned with
    ⟨rule, violated, rfl, _⟩ | ⟨accepted, shots, ending, course, _, _, answered⟩
  · rw [violated, Option.map_some]
    refine ⟨fun same => ⟨same, ?_⟩, And.left⟩
    rw [← Option.some.inj same]
    rfl
  · rw [accepted, Option.map_none]
    rcases Ending.of_answer answered.symm with ⟨ends, _, _⟩
    refine iff_of_false (by simp) ?_
    rintro ⟨found, rejected⟩
    exact Ending.not_rejected ends found rejected

/-- Whoever asks for a run whose script can be executed under the settings is told the same. -/
theorem execute_agrees (executed : execute script settings = .ok result) :
    ∃ engine, engineFor settings = .ok engine ∧ Agrees script settings engine result := by
  rcases execute_ok executed with ⟨limits, ended, read, returned⟩
  refine ⟨.withLimits limits, by rw [engineFor, read], ?_⟩
  constructor
  · intro speed delay paced scriptId store
    rcases Engine.run_of_paced returned paced with ⟨left, returnedToo⟩
    have supplies := Engine.supplies_of_run returnedToo
    exact ⟨left, result.items, supplies.deliver, rfl,
      RunAnswer.tellsBody ((result_run script settings scriptId store).trans executed)⟩
  · intro speed delay paced
    rcases Engine.run_of_paced returned paced with ⟨ended, returnedToo⟩
    refine ⟨ended, returnedToo, ?_⟩
    intro sizes
    have remains : Engine.Remains (.withLimits limits) (some (.unstarted script speed))
        result.items ended := Engine.supplies_of_run returnedToo
    rcases remains.pullGroups sizes with ⟨left, rest, pulled, remaining⟩
    refine ⟨left, rest, pulled, ?_⟩
    intro enough
    rw [List.drop_of_length_le enough] at remaining
    exact remaining.eq_of_nil
  · intro speed delay paced count positive
    obtain ⟨count, rfl⟩ : ∃ before, count = before + 1 := ⟨count - 1, by omega⟩
    rcases Engine.run_of_paced returned paced with ⟨ended, returnedToo⟩
    exact (Engine.supplies_of_run returnedToo).deliver_some
      (Engine.phase_ne_cancelled_of_run returnedToo) count
  · exact validate_iff returned

/-- A declaration is delivered as its change, its end and its outcome. -/
theorem execute_agrees_of_declaration :
    ∃ result engine, execute "let a = []".toList .null = .ok result ∧
      engineFor .null = .ok engine ∧ result.items.length = 3 ∧
      Agrees "let a = []".toList .null engine result := by
  let declared := (Machine.started.visit false ⟨0, "let a = []".toList⟩).written ['a'] (.array [])
  have declares : step .standard .started (.top (numberLines 0 (Text.lines "let a = []".toList))) =
      .go (some .declare) declared (.top []) := by cbv
  have course : Course .standard (fun _ => false) .started
      (.top (numberLines 0 (Text.lines "let a = []".toList)))
      [(declared.showing .declare).2] (.finished (declared.showing .declare).1) :=
    .shown declares rfl (.finished rfl)
  have accepted : Dialect.violation? "let a = []".toList = none := by cbv
  have idle : (Engine.withLimits .standard).isRunning = false := rfl
  have read : Settings.limits .null = .ok .standard := rfl
  rcases Engine.run_ok_of_course idle accepted course rfl with ⟨ended, returned⟩
  rcases execute_agrees (execute_of_run read returned) with ⟨engine, made, agrees⟩
  exact ⟨_, engine, execute_of_run read returned, made, rfl, agrees⟩

end Service

end StepScript

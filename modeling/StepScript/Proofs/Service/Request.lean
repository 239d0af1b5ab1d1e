import StepScript.Proofs.Run.Course
import StepScript.Service

/-!
# Requests

What a request does is said in terms of the engine that it makes: its limits never exceed the
standard ones, and it answers with the result of one run on that engine.
-/

namespace StepScript

namespace Settings

theorem capped_le {name : String} {ceiling value : Int} {settings : Json}
    (read : capped name ceiling settings = .ok value) : value ≤ ceiling := by
  unfold capped at read
  cases given : settings.field? name with
  | none =>
    simp only [given, Except.ok.injEq] at read
    exact Int.le_of_eq read.symm
  | some setting =>
    cases asked : integer setting with
    | error cause => simp [given, asked, Except.map] at read
    | ok number =>
      simp only [given, asked, Except.map, Except.ok.injEq] at read
      exact read ▸ Int.min_le_right _ _

/-- Settings never lead to more than the standard limits. -/
theorem limits_le {settings : Json} {allowed : Limits}
    (read : limits settings = .ok allowed) :
    allowed.maxSteps ≤ Limits.standard.maxSteps ∧
      allowed.maxLoop ≤ Limits.standard.maxLoop := by
  unfold limits at read
  cases steps : capped "max_steps" Limits.standard.maxSteps settings with
  | error cause => simp [steps, bind, Except.bind] at read
  | ok maxSteps =>
    cases rounds : capped "max_loop" Limits.standard.maxLoop settings with
    | error cause => simp [steps, rounds, bind, Except.bind] at read
    | ok maxLoop =>
      simp only [steps, rounds, bind, Except.bind, pure, Except.pure, Except.ok.injEq] at read
      subst read
      exact ⟨capped_le steps, capped_le rounds⟩

end Settings

namespace Service

/-- A request with a result has run its script on an engine under the limits of its settings. -/
theorem execute_ok {script : Text} {settings : Json} {result : RunResult}
    (executed : execute script settings = .ok result) :
    ∃ limits ended, Settings.limits settings = .ok limits ∧
      (Engine.withLimits limits).run script none (fun _ => false) = (ended, .ok result) := by
  unfold execute engineFor at executed
  cases read : Settings.limits settings with
  | error cause => simp [read] at executed
  | ok limits =>
    simp only [read] at executed
    cases ran : (Engine.withLimits limits).run script none (fun _ => false) with
    | mk ended answer =>
      cases answer with
      | error cause => simp [ran, Except.mapError] at executed
      | ok other =>
        simp only [ran, Except.mapError, Except.ok.injEq] at executed
        exact ⟨limits, ended, rfl, executed ▸ ran⟩

/-- A run that returns under the limits of the settings is the answer to the request. -/
theorem execute_of_run {script : Text} {settings : Json} {limits : Limits} {ended : Engine}
    {result : RunResult} (read : Settings.limits settings = .ok limits)
    (returned : (Engine.withLimits limits).run script none (fun _ => false) = (ended, .ok result)) :
    execute script settings = .ok result := by
  simp only [execute, engineFor, read, returned, Except.mapError]

/-- Whether a run is recorded or not, the request answers with what has been executed. -/
theorem result_run (script : Text) (settings : Json) (scriptId : Option Int) (store : Store) :
    (run script settings scriptId store).2.result = execute script settings := by
  unfold run
  split
  next cause failed => exact failed.symm
  next result executed => split <;> exact executed.symm

end Service

end StepScript

import Mathlib.Data.List.Forall2
import RoleDaemon.Subsystem.Basic

/-!
# The Steps up to the First Failure

The subsystem bootstrap runs its steps one after the other until one fails.  What a run leaves behind, the
steps that were run, the events and the result, is told by the steps up to the first failing one; the steps
behind it might as well not be there.

## Architecture

- `Step.Succeeds`, `FailsFirst`: what is asked of steps, each with the settings that all of them are given
- `run_cons_of_succeeds`, `run_cons_of_error`: what one step leaves behind, and whether the run goes on
  behind it
- `run_append`: steps that succeed are followed by the run of those behind them, by induction on the steps
- `run_cases`: all steps succeed, or there is a first one that fails, and what the run leaves behind then

Main statements:
- `run_ends_at_first_failure`: which steps are run, and what the result is
-/

namespace RoleDaemon.Subsystem

/-! ## §1 One Step -/

namespace Step

variable (config : SubsystemConfig) (step : Step)

/-- The step has nothing against the settings. -/
def Succeeds : Prop :=
  (step.init config).result = .ok ()

/-- The step as one that was run with the settings. -/
def execution : Execution :=
  ⟨step.name, config⟩

/-- What is reported up to the end of the step, as far as the step itself goes. -/
def begun : List Log.Event :=
  .stepStarted step.name :: (step.init config).events

/-- What is reported of a step that succeeds. -/
def completed : List Log.Event :=
  step.begun config ++ [.stepDone step.name]

end Step

variable {config : SubsystemConfig} {before : List Step} {failing : Step} {cause : Cause}

/-- All steps before the failing one succeed, so it is the first that fails. -/
structure FailsFirst (config : SubsystemConfig) (before : List Step) (failing : Step) (cause : Cause) :
    Prop where
  passed : ∀ step ∈ before, step.Succeeds config
  failed : (failing.init config).result = .error cause

/-- All steps succeed, or one of them is the first that fails. -/
theorem exists_failsFirst (steps : List Step) (config : SubsystemConfig) :
    (∀ step ∈ steps, step.Succeeds config) ∨
      ∃ before failing after cause,
        steps = before ++ failing :: after ∧ FailsFirst config before failing cause := by
  induction steps with
  | nil => exact .inl (by simp)
  | cons step steps ih =>
    cases hstep : (step.init config).result with
    | error cause => exact .inr ⟨[], step, steps, cause, rfl, by simp, hstep⟩
    | ok _ =>
      obtain hall | ⟨before, failing, after, cause, rfl, hfirst⟩ := ih
      · exact .inl (List.forall_mem_cons.2 ⟨hstep, hall⟩)
      · refine .inr ⟨step :: before, failing, after, cause, rfl, ?_, hfirst.failed⟩
        exact List.forall_mem_cons.2 ⟨hstep, hfirst.passed⟩

/-! ## §2 Runs -/

/-- A step that succeeds is completed, and the steps behind it are run. -/
theorem run_cons_of_succeeds {step : Step} (hstep : step.Succeeds config) (steps : List Step) :
    run (step :: steps) config =
      { executed := step.execution config :: (run steps config).executed
        events := step.completed config ++ (run steps config).events
        result := (run steps config).result.map (step.name :: ·) } := by
  rw [Step.Succeeds] at hstep
  rw [run, hstep]
  simp only [Step.execution, Step.completed, Step.begun, List.cons_append, List.append_assoc,
    List.nil_append]

/-- A step that fails is the last one. -/
theorem run_cons_of_error {step : Step} (hstep : (step.init config).result = .error cause)
    (steps : List Step) :
    run (step :: steps) config =
      ⟨[step.execution config], step.begun config, .error (.subsystem step.name cause)⟩ := by
  rw [run, hstep]
  rfl

/-- Steps that succeed are run, each once and in order, and then come those behind them. -/
theorem run_append (hbefore : ∀ step ∈ before, step.Succeeds config) (rest : List Step) :
    run (before ++ rest) config =
      { executed := before.map (·.execution config) ++ (run rest config).executed
        events := before.flatMap (·.completed config) ++ (run rest config).events
        result := (run rest config).result.map (before.map (·.name) ++ ·) } := by
  induction before with
  | nil =>
    -- nothing is put in front of what the rest leaves behind
    have hsame : ∀ result : Except BootstrapError (List String),
        result.map (([] : List String) ++ ·) = result := by
      intro result
      cases result <;> rfl
    simp only [List.nil_append, List.map_nil, List.flatMap_nil] at hsame ⊢
    rw [hsame]
  | cons step before ih =>
    obtain ⟨hstep, hpassed⟩ := List.forall_mem_cons.1 hbefore
    rw [List.cons_append, run_cons_of_succeeds hstep, ih hpassed]
    simp only [List.map_cons, List.flatMap_cons, List.cons_append, List.append_assoc]
    congr 1
    cases (run rest config).result <;> rfl

/-- Steps that all succeed are all run and completed. -/
theorem run_of_succeeds {steps : List Step} (h : ∀ step ∈ steps, step.Succeeds config) :
    run steps config =
      { executed := steps.map (·.execution config)
        events := steps.flatMap (·.completed config)
        result := .ok (steps.map (·.name)) } := by
  have hrun := run_append h []
  rw [List.append_nil] at hrun
  rw [hrun]
  simp only [run, List.append_nil, Except.map]

/-- The first step that fails is the last one that is run, and its failure is the result. -/
theorem run_of_failsFirst (h : FailsFirst config before failing cause) (after : List Step) :
    run (before ++ failing :: after) config =
      { executed := (before ++ [failing]).map (·.execution config)
        events := before.flatMap (·.completed config) ++ failing.begun config
        result := .error (.subsystem failing.name cause) } := by
  rw [run_append h.passed, run_cons_of_error h.failed, List.map_append]
  rfl

/-- Steps with the same names and the same results come to the same, whatever else there is to them. -/
theorem run_result_congr {config' : SubsystemConfig} {steps steps' : List Step}
    (h : List.Forall₂ (fun step step' => step.name = step'.name ∧
      (step.init config).result = (step'.init config').result) steps steps') :
    (run steps config).result = (run steps' config').result := by
  induction h with
  | nil => rfl
  | @cons step step' _ _ hstep _ ih =>
    obtain ⟨hname, hresult⟩ := hstep
    cases hresult' : (step'.init config').result with
    | error cause =>
      rw [run_cons_of_error (hresult.trans hresult'), run_cons_of_error hresult', hname]
    | ok _ =>
      rw [run_cons_of_succeeds (hresult.trans hresult'), run_cons_of_succeeds hresult', hname]
      simp only [ih]

/-- All that a run can come to. -/
theorem run_cases (steps : List Step) (config : SubsystemConfig) :
    ((∀ step ∈ steps, step.Succeeds config) ∧ (run steps config).result = .ok (steps.map (·.name))) ∨
      ∃ before failing after cause, steps = before ++ failing :: after ∧
        FailsFirst config before failing cause ∧
        (run steps config).result = .error (.subsystem failing.name cause) := by
  obtain hall | ⟨before, failing, after, cause, rfl, hfirst⟩ := exists_failsFirst steps config
  · exact .inl ⟨hall, by rw [run_of_succeeds hall]⟩
  · exact .inr ⟨before, failing, after, cause, rfl, hfirst, by rw [run_of_failsFirst hfirst]⟩

/-- **A run ends at the first failure.**  Whatever the steps are, and whatever they make of the settings:

    - the result is a success just when every step succeeds, and has the names of all steps in order;
    - it is an error just when there is a first step that fails, and carries the name and the cause of
      that step;
    - when every step succeeds, all steps are run, each once, in order, and with the same settings;
    - when there is a first one that fails, the steps up to it are run in this way, and everything that
      the run leaves behind is as if any other steps had been behind it. -/
theorem run_ends_at_first_failure (steps : List Step) (config : SubsystemConfig) :
    let report := run steps config
    (∀ names, report.result = .ok names ↔
      (∀ step ∈ steps, step.Succeeds config) ∧ names = steps.map (·.name)) ∧
    (∀ error, report.result = .error error ↔
      ∃ before failing after cause, steps = before ++ failing :: after ∧
        FailsFirst config before failing cause ∧ error = .subsystem failing.name cause) ∧
    ((∀ step ∈ steps, step.Succeeds config) → report.executed = steps.map (·.execution config)) ∧
    (∀ before failing after cause, steps = before ++ failing :: after →
      FailsFirst config before failing cause →
      report.executed = (before ++ [failing]).map (·.execution config) ∧
        ∀ others, run (before ++ failing :: others) config = report) := by
  intro report
  refine ⟨fun names => ⟨fun hok => ?_, ?_⟩, fun error => ⟨fun herror => ?_, ?_⟩, ?_, ?_⟩
  · -- a success is no failure of a first step
    obtain ⟨hall, hresult⟩ | ⟨before, failing, after, cause, -, -, hresult⟩ := run_cases steps config
    · exact ⟨hall, Except.ok.inj (hok.symm.trans hresult)⟩
    · exact absurd (hok.symm.trans hresult) (by simp)
  · rintro ⟨hall, rfl⟩
    rw [show report = _ from run_of_succeeds hall]
  · obtain ⟨-, hresult⟩ | ⟨before, failing, after, cause, hsteps, hfirst, hresult⟩ :=
      run_cases steps config
    · exact absurd (herror.symm.trans hresult) (by simp)
    · exact ⟨before, failing, after, cause, hsteps, hfirst,
        Except.error.inj (herror.symm.trans hresult)⟩
  · rintro ⟨before, failing, after, cause, rfl, hfirst, rfl⟩
    rw [show report = _ from run_of_failsFirst hfirst after]
  · intro hall
    rw [show report = _ from run_of_succeeds hall]
  · rintro before failing after cause rfl hfirst
    refine ⟨?_, fun others => ?_⟩
    · rw [show report = _ from run_of_failsFirst hfirst after]
    · rw [run_of_failsFirst hfirst others]
      exact (run_of_failsFirst hfirst after).symm

end RoleDaemon.Subsystem

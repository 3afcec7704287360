import RoleDaemon.Environment.Basic
import RoleDaemon.Proofs.Metrics.Flags

/-!
# Building the Environment and Taking It Down

What the environment does to the state of the process, and what its building depends on.

Main statements:
- `Environment.init_cases`: the building fails and opens nothing, or it succeeds, with or without the
  pages
- `Environment.keepsFlags_init`: no flag changes meanwhile
- `Environment.init_log`: the log does not matter
-/

namespace RoleDaemon.Environment

open Metrics Net

/-- The list of live tasks of an environment that was just built, with the task that serves the pages
    where they are served. -/
def firstTasks (served : Bool) (now : Timestamp) : TaskRegistry :=
  if served then (TaskRegistry.empty.start webServerTask.1 webServerTask.2 now).2 else .empty

/-- Serving the pages fails and changes nothing, or it opens a listener, and lists a task in a new list
    of live tasks. -/
theorem startWebServer_cases (identity : Identity) (endpoint : Endpoint) (now : Timestamp)
    (machine : Machine) :
    (∃ cause, startWebServer identity endpoint now machine = (machine, .error cause)) ∨
    ∃ machine' listener sockets, startWebServer identity endpoint now machine =
        (machine', .ok ⟨identity, machine.taskLists.length,
          some ⟨listener, ⟨machine.taskLists.length, TaskRegistry.empty.nextId⟩⟩⟩) ∧
      machine.sockets.listen endpoint = .ok (listener, sockets) ∧ machine'.sockets = sockets ∧
      machine'.taskLists = machine.taskLists ++ [firstTasks true now] ∧
      machine.metrics.KeepsFlags machine'.metrics := by
  unfold startWebServer
  cases hlisten : machine.sockets.listen endpoint with
  | error fault => exact .inl ⟨_, rfl⟩
  | ok opened =>
    obtain ⟨listener, sockets⟩ := opened
    let served : Machine :=
      { machine with sockets, taskLists := machine.taskLists ++ [firstTasks true now] }
    refine .inr ⟨(served.increment Machine.tasksCreated 1).report (.webserverListening listener),
      listener, sockets, ?_, rfl, rfl, rfl, Registry.keepsFlags_increment machine.metrics _ _⟩
    simp only [Machine.addTaskList, Machine.startTask, Machine.tasks, List.getElem?_concat_length,
      Option.getD_some, List.set_append_right _ _ (Nat.le_refl _), Nat.sub_self, List.set_cons_zero]
    rfl

/-- Building an environment leaves listeners and live tasks as they are when it fails, adds an empty
    list of live tasks when the pages are disabled, and else opens one listener and lists one task. -/
theorem init_cases (identity : Identity) (config : Config) (now : Timestamp) (machine : Machine) :
    (∃ machine' cause, init identity config now machine = (machine', .error cause) ∧
      machine'.sockets = machine.sockets ∧ machine'.taskLists = machine.taskLists) ∨
    (∃ machine', init identity config now machine =
        (machine', .ok ⟨identity, machine.taskLists.length, none⟩) ∧
      machine'.sockets = machine.sockets ∧
      machine'.taskLists = machine.taskLists ++ [firstTasks false now]) ∨
    (∃ machine' listener sockets, init identity config now machine =
        (machine', .ok ⟨identity, machine.taskLists.length,
          some ⟨listener, ⟨machine.taskLists.length, TaskRegistry.empty.nextId⟩⟩⟩) ∧
      machine.sockets.listen ⟨config.webserver.interface, config.webserver.port⟩ =
        .ok (listener, sockets) ∧
      machine'.sockets = sockets ∧
      machine'.taskLists = machine.taskLists ++ [firstTasks true now]) := by
  unfold init
  rcases henroll : machine.enroll (enrolments identity config now) with ⟨enrolled, result⟩
  have hsame : enrolled.sockets = machine.sockets ∧ enrolled.taskLists = machine.taskLists := by
    obtain rfl : (machine.enroll (enrolments identity config now)).1 = enrolled := by rw [henroll]
    exact ⟨rfl, rfl⟩
  cases result with
  | error cause => exact .inl ⟨enrolled, cause, rfl, hsame⟩
  | ok _ =>
    cases henabled : config.webserver.enabled with
    | false =>
      refine .inr (.inl ⟨enrolled.addTaskList.2.report .webserverDisabled, ?_, hsame.1, ?_⟩)
      · simp [Machine.addTaskList, hsame.2]
      · simp [Machine.addTaskList, Machine.report, firstTasks, hsame.2]
    | true =>
      have hstart := startWebServer_cases identity ⟨config.webserver.interface, config.webserver.port⟩
        now enrolled
      rw [hsame.1, hsame.2] at hstart
      obtain ⟨cause, hfailed⟩ | ⟨machine', listener, sockets, hstarted, hlisten, hsockets, htasks, -⟩ :=
        hstart
      · exact .inl ⟨enrolled, cause, hfailed, hsame⟩
      · exact .inr (.inr ⟨machine', listener, sockets, hstarted, hlisten, hsockets, htasks⟩)

/-- Building an environment changes no flag that is registered. -/
theorem keepsFlags_init (identity : Identity) (config : Config) (now : Timestamp) (machine : Machine) :
    machine.metrics.KeepsFlags (init identity config now machine).1.metrics := by
  have henrolled : machine.metrics.KeepsFlags
      (machine.enroll (enrolments identity config now)).1.metrics :=
    Registry.keepsFlags_enroll (enrolments identity config now) machine.metrics
  unfold init
  split
  · rename_i enrolled cause henroll
    rwa [henroll] at henrolled
  · rename_i enrolled henroll
    rw [henroll] at henrolled
    split
    · refine henrolled.trans ?_
      obtain ⟨cause, h⟩ | ⟨machine', _, _, h, -, -, -, hkept⟩ := startWebServer_cases identity
        ⟨config.webserver.interface, config.webserver.port⟩ now enrolled
      · rw [h]
        exact Registry.KeepsFlags.refl _
      · rw [h]
        exact hkept
    · exact henrolled

/-- What the log holds does not matter to the building. -/
theorem init_log (identity : Identity) (config : Config) (now : Timestamp) (machine : Machine)
    (log : List Log.Event) :
    ∃ log', init identity config now { machine with log } =
      ({ (init identity config now machine).1 with log := log' },
        (init identity config now machine).2) := by
  have henroll : Machine.enroll { machine with log } (enrolments identity config now) =
      ({ (machine.enroll (enrolments identity config now)).1 with log },
        (machine.enroll (enrolments identity config now)).2) := rfl
  unfold init
  rw [henroll]
  rcases machine.enroll (enrolments identity config now) with ⟨enrolled, cause | _⟩
  · exact ⟨log, rfl⟩
  · cases config.webserver.enabled with
    | false => exact ⟨log ++ [.webserverDisabled], rfl⟩
    | true =>
      simp only [startWebServer]
      cases enrolled.sockets.listen ⟨config.webserver.interface, config.webserver.port⟩ with
      | error fault => exact ⟨log, rfl⟩
      | ok opened => exact ⟨log ++ [.webserverListening opened.1], rfl⟩

/-- Taking an environment down changes no metric. -/
@[simp] theorem shutdown_metrics (environment : Environment) (machine : Machine) :
    (environment.shutdown machine).2.metrics = machine.metrics := by
  unfold shutdown
  split <;> rfl

end RoleDaemon.Environment

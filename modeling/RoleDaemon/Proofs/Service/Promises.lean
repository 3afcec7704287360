import RoleDaemon.Proofs.Service.Lifetime

/-!
# What a Handle Promises

A handle of a service on the network makes four promises: it starts once, it tells its port from its start
on, it runs until its loop ends, and no stop is lost.  They hold in each stage of its lifetime, and so
whatever happens to it and around it.

Main definitions:
- `Lifetime.StartsOnce`, `Lifetime.TellsPort`, `Lifetime.RunsUntilExit`, `Lifetime.StopHolds`: the promises

Main statement:
- `Lifetime.handle_contract`: the promises are kept
-/

namespace RoleDaemon

open Net Handle

namespace Lifetime

variable {role : Role} {tasks : Nat} {endpoint : Endpoint} {before : Machine} {past : List Event}
  {life : Lifetime}

/-! ## §1 Promises -/

/-- Only the first start tries to bind. -/
structure StartsOnce (role : Role) (endpoint : Endpoint) (life : Lifetime) : Prop where
  /-- The first start was answered with success or with the reason why the endpoint could not be listened
      on, and every later one with the notice that the service was started before. -/
  answers : life.answers = [] ∨ ∃ first later, life.answers = answersFrom role first later ∧
    (first = .ok () ∨ ∃ fault, first = .error (bindFailure role endpoint fault))
  /-- The first start succeeds where the endpoint can be listened on.  Where it cannot, the process stays
      as it is, and the service is not started. -/
  first : life.answers = [] → ∀ now,
    match life.machine.sockets.listen endpoint with
    | .ok (listener, _) => ∃ handle machine,
      life.handle.start now life.machine = (handle, machine, .ok ()) ∧
        handle.boundPort = listener.port ∧ handle.isRunning
    | .error fault => ∃ handle,
      life.handle.start now life.machine =
          (handle, life.machine, .error (bindFailure role endpoint fault)) ∧
        handle.boundPort = 0 ∧ handle.isRunning = false
  /-- A start after the first one is refused and changes nothing. -/
  later : life.answers ≠ [] → ∀ now,
    life.handle.start now life.machine = (life.handle, life.machine, .error (startedBefore role))
  once : life.answers.countP (·.isOk) ≤ 1

/-- The port is that of the listener from the successful start on, and 0 before. -/
structure TellsPort (tasks : Nat) (endpoint : Endpoint) (before : Machine) (past : List Event)
    (life : Lifetime) : Prop where
  started : life.held?.isSome ↔ .ok () ∈ life.answers
  /-- Without a successful start the process is as others have made it. -/
  unstarted : life.held? = none → life.handle.boundPort = 0 ∧ life.handle.isRunning = false ∧
    life.machine = Event.outsideAll tasks before past
  bound : ∀ holding, life.held? = some holding → life.handle.boundPort = holding.listener.port ∧
    holding.listener.port ≠ 0 ∧ endpoint.Settles holding.listener
  constant : ∀ holding, life.held? = some holding → ∀ more, (life.run more).held? = some holding

/-- The service runs from the successful start until its loop ends, and its task is listed as long. -/
structure RunsUntilExit (role : Role) (tasks : Nat) (past : List Event) (life : Lifetime) : Prop where
  running : life.handle.isRunning = (life.held?.isSome && !life.exited)
  listed : ∀ holding, life.held? = some holding → holding.task.list = tasks ∧
    ∃ now, .start now ∈ past ∧ (life.machine.tasks tasks).withId holding.task.id =
      if life.handle.isRunning then [⟨holding.task.id, category, role.name, now⟩] else []
  listens : life.handle.isRunning →
    ∃ holding, life.held? = some holding ∧ holding.listener ∈ life.machine.sockets.listening
  final : life.exited → ∀ more, (life.run more).exited

/-- The loop has ended, and its endpoint can be listened on again. -/
structure IsOver (endpoint : Endpoint) (life : Lifetime) : Prop where
  exited : life.exited
  stopped : life.handle.isRunning = false
  free : ∃ holding, life.held? = some holding ∧
    (∃ sockets, life.machine.sockets.listen holding.listener = .ok (holding.listener, sockets)) ∧
    ∃ opened sockets, life.machine.sockets.listen endpoint = .ok (opened, sockets)

/-- A stop is never lost, whether it comes before the start or after it. -/
structure StopHolds (endpoint : Endpoint) (past : List Event) (life : Lifetime) : Prop where
  /-- The loop does not end by itself. -/
  asked : life.exited → .stop ∈ past
  /-- Once it was stopped, a loop that goes on comes to its end, and a pending wait returns. -/
  exits : .stop ∈ past → life.handle.isRunning → (life.step .exit).IsOver endpoint ∧
    (life.handle.awaited → (life.step .exit).returned = life.returned ++ [.ok ()])
  /-- Once it was stopped, a wait returns, and if no other one is pending the loop has ended then. -/
  waits : .stop ∈ past → (life.step .wait).returned = life.returned ++ [.ok ()] ∧
    (life.handle.isRunning → life.handle.awaited = false → (life.step .wait).IsOver endpoint)
  returned : ∀ result ∈ life.returned, result = .ok ()
  /-- Nobody waits for a service that was not started, or that somebody waits for already. -/
  atOnce : life.held? = none ∨ life.handle.awaited →
    life.handle.wait life.machine = (life.handle, life.machine, some (.ok ()))

/-! ## §2 Stages Keep Them -/

theorem countP_isOk_answersFrom (role : Role) (first : Except Cause Unit) (later : Nat) :
    (answersFrom role first later).countP (·.isOk) ≤ 1 := by
  have hlater : (List.replicate later (.error (startedBefore role) : Except Cause Unit)).countP
      (·.isOk) = 0 := by
    simp [List.countP_replicate, Except.isOk, Except.toBool]
  unfold answersFrom
  rw [List.countP_cons, hlater]
  split <;> omega

theorem ok_mem_answersFrom (role : Role) (first : Except Cause Unit) (later : Nat) :
    .ok () ∈ answersFrom role first later ↔ first = .ok () := by
  simp [answersFrom, eq_comm]

theorem Reached.startsOnce (h : Reached role tasks endpoint before past life) :
    life.StartsOnce role endpoint := by
  have hanswers : life.answers = [] ∨ ∃ first later, life.answers = answersFrom role first later ∧
      (first = .ok () ∨ ∃ fault, first = .error (bindFailure role endpoint fault)) := by
    cases h.stage with
    | idle => exact .inl rfl
    | refused _ _ fault later => exact .inr ⟨_, later, rfl, .inr ⟨fault, rfl⟩⟩
    | running _ _ _ _ _ _ later => exact .inr ⟨_, later, rfl, .inl rfl⟩
    | ended _ _ _ _ _ later => exact .inr ⟨_, later, rfl, .inl rfl⟩
  refine ⟨hanswers, ?_, fun hsome now => (h.stage.start_again hsome now).1, ?_⟩
  · intro hnone now
    cases h.stage with
    | idle stop machine =>
      obtain ⟨fault, hlisten, hstart⟩ | ⟨listener, sockets, hlisten, hstart⟩ :=
        start_first role tasks endpoint stop now machine
      · simp only [hlisten]
        exact ⟨_, hstart, rfl, rfl⟩
      · simp only [hlisten]
        exact ⟨_, _, hstart, rfl, rfl⟩
    | _ => cases hnone
  · obtain hnone | ⟨first, later, hsome, -⟩ := hanswers
    · rw [hnone]
      exact Nat.zero_le 1
    · rw [hsome]
      exact countP_isOk_answersFrom role first later

theorem Reached.tellsPort (h : Reached role tasks endpoint before past life) :
    life.TellsPort tasks endpoint before past := by
  refine ⟨?_, fun hnone => ?_, fun holding hholding => ?_, fun holding => held?_run⟩
  · cases h.stage with
    | idle => simp
    | refused => simp [ok_mem_answersFrom]
    | running => simp [ok_mem_answersFrom]
    | ended => simp [ok_mem_answersFrom]
  · cases h.stage with
    | idle _ _ _ untouched => exact ⟨rfl, rfl, untouched⟩
    | refused _ _ _ _ _ untouched => exact ⟨rfl, rfl, untouched⟩
    | running => cases hnone
    | ended => cases hnone
  · cases h.stage with
    | idle => cases hholding
    | refused => cases hholding
    | running _ _ _ _ _ _ _ _ settles =>
      cases hholding
      exact ⟨rfl, settles.port_ne_zero, settles⟩
    | ended _ _ _ _ _ _ _ settles =>
      cases hholding
      exact ⟨rfl, settles.port_ne_zero, settles⟩

theorem Reached.runsUntilExit (h : Reached role tasks endpoint before past life) :
    life.RunsUntilExit role tasks past := by
  refine ⟨?_, fun holding hholding => ?_, fun hrunning => ?_, exited_run⟩
  · cases h.stage <;> rfl
  · cases h.stage with
    | idle => cases hholding
    | refused => cases hholding
    | running _ _ _ _ _ now _ _ _ started _ listed =>
      cases hholding
      exact ⟨rfl, now, started, listed⟩
    | ended _ _ _ _ now _ _ _ started finished =>
      cases hholding
      exact ⟨rfl, now, started, finished⟩
  · cases h.stage with
    | running _ _ _ _ _ _ _ _ _ _ listens => exact ⟨_, rfl, listens.mem⟩
    | _ => cases hrunning

/-- A service that has just given back its listener leaves the place free. -/
theorem isOver_ended {machine : Machine} {listener : Endpoint} (settles : endpoint.Settles listener)
    (listens : machine.sockets.HoldsAlone listener) (awaited : Bool) (id : UInt64)
    (answers : List (Except Cause Unit)) (returned : List (Except LoopFault Unit)) :
    IsOver endpoint ⟨handleIn role tasks endpoint (.ended listener.port) true awaited,
      machine.giveBack ⟨listener, ⟨tasks, id⟩⟩, some ⟨listener, ⟨tasks, id⟩⟩, answers, returned, true⟩ :=
  ⟨rfl, rfl, _, rfl, Sockets.listen_self settles listens.alone,
    Sockets.listen_of_settles settles listens.alone⟩

theorem Reached.stopHolds (h : Reached role tasks endpoint before past life) :
    life.StopHolds endpoint past := by
  refine ⟨fun hexited => ?_, fun hstop hrunning => ?_, fun hstop => ?_, h.returned, fun hsettled => ?_⟩
  · apply h.stopped.1
    cases h.stage with
    | ended => rfl
    | _ => cases hexited
  · have hflag := h.stopped.2 hstop
    cases h.stage with
    | running stop awaited machine listener id now later returned settles started listens =>
      cases hflag
      refine ⟨isOver_ended settles listens awaited id _ _, ?_⟩
      rintro rfl
      rfl
    | _ => cases hrunning
  · have hflag := h.stopped.2 hstop
    cases h.stage with
    | idle => exact ⟨rfl, nofun⟩
    | refused => exact ⟨rfl, nofun⟩
    | running stop awaited machine listener id now later returned settles started listens =>
      cases hflag
      refine ⟨by cases awaited <;> rfl, ?_⟩
      rintro - rfl
      exact isOver_ended settles listens true id _ _
    | ended awaited => exact ⟨by cases awaited <;> rfl, nofun⟩
  · cases h.stage with
    | idle => rfl
    | refused => rfl
    | running _ awaited =>
      cases awaited with
      | false => simp at hsettled
      | true => rfl
    | ended awaited =>
      cases awaited with
      | false => simp at hsettled
      | true => rfl

/-! ## §3 All That Happens -/

/-- **A handle keeps its promises.**  Whatever starts, stops and waits come to the handle of a service on
    the network, in any order, and whatever others do in between, with its endpoint or with tasks of their
    own, as long as the numbers for tasks last:

    - only the first start tries to bind, and one start succeeds at most;
    - the port is that of the listener from the successful start on, which is not 0, and 0 without it;
    - the service runs from the successful start until its loop ends, and as long its task is listed;
    - a stop is never lost: the loop ends, whoever waits returns well, and the endpoint is free then. -/
theorem handle_contract (role : Role) (endpoint : Endpoint) (hlists : tasks < before.taskLists.length)
    (hnumbers : ∀ task ∈ (before.tasks tasks).live, task.id < (before.tasks tasks).nextId)
    {events : List Event}
    (hroom : (before.tasks tasks).nextId.toNat + events.countP Event.listsTask < UInt64.size) :
    let life := (new role tasks endpoint before).run events
    life.StartsOnce role endpoint ∧ life.TellsPort tasks endpoint before events ∧
      life.RunsUntilExit role tasks events ∧ life.StopHolds endpoint events := by
  intro life
  have hreached : Reached role tasks endpoint before events life :=
    (reached_new role endpoint hlists hnumbers).run events hroom
  exact ⟨hreached.startsOnce, hreached.tellsPort, hreached.runsUntilExit, hreached.stopHolds⟩

/-- A process with one list of tasks, in which a task of others is listed. -/
def oneTask : Machine :=
  ⟨.empty, .empty, [⟨2, [⟨1, "webserver", "status-pages", ⟨"2026-01-01T00:00:00"⟩⟩]⟩], []⟩

/-- A service is stopped and then started, and started again; others try to listen on its endpoint, and end
    a task of their own; then it is waited for. -/
def stoppedEarly : List Event :=
  let now : Timestamp := ⟨"2026-01-01T00:00:00"⟩
  [.stop, .start now, .start now, .outside (.listen ⟨.v4 ⟨127, 0, 0, 1⟩, 12050⟩),
    .outside (.finishTask 1), .wait]

/-- The stop before the start holds: the second start is refused, and whoever waits returns, after which
    the port is still told, and no task is listed under the number of the service. -/
theorem handle_contract_stoppedEarly :
    let endpoint : Endpoint := ⟨.v4 ⟨127, 0, 0, 1⟩, 12050⟩
    let life := (new .planner 0 endpoint oneTask).run stoppedEarly
    life.answers = [.ok (), .error (startedBefore .planner)] ∧ life.handle.boundPort = 12050 ∧
      life.handle.isRunning = false ∧ life.returned = [.ok ()] ∧
      (life.machine.tasks 0).withId 2 = [] := by
  intro endpoint life
  have hlists : 0 < oneTask.taskLists.length := by decide
  have hnumbers : ∀ task ∈ (oneTask.tasks 0).live, task.id < (oneTask.tasks 0).nextId := by decide
  have hroom : (oneTask.tasks 0).nextId.toNat + stoppedEarly.countP Event.listsTask < UInt64.size := by decide
  have hseen : life.answers = [.ok (), .error (startedBefore .planner)] ∧
      life.held? = some ⟨endpoint, ⟨0, 2⟩⟩ ∧ life.exited = true ∧ life.returned = [.ok ()] := by
    decide
  obtain ⟨hanswers, hheld, hexited, hreturned⟩ := hseen
  obtain ⟨-, hport, hruns, -⟩ := handle_contract .planner endpoint hlists hnumbers hroom
  have hstopped : life.handle.isRunning = false := by
    rw [hruns.running, hexited, Bool.not_true, Bool.and_false]
  obtain ⟨-, now, -, hlisted⟩ := hruns.listed _ hheld
  rw [hstopped] at hlisted
  exact ⟨hanswers, (hport.bound _ hheld).1, hstopped, hreturned, hlisted⟩

end Lifetime

end RoleDaemon

import RoleDaemon.Proofs.Service.Outside

/-!
# The Lifetime of a Service on the Network

A handle is started, stopped and waited for in any order and any number of times, while others listen on
endpoints, also on its own, and start and end tasks.  Whatever has happened to it, it is in one of four
stages, and the stage tells what each operation does.

## Architecture

- `Handle.Event`: what happens to a handle, or beside it
- `Lifetime`: a handle, the process, and what was seen of both; `Lifetime.step`, `Lifetime.run`
- `Lifetime.Stage`: what a lifetime looks like before the start, after a failed start, as long as the
  loop goes on, and after its end
- `Lifetime.Reached`: the stage, and the numbers that tasks got so far

Main statements:
- `Lifetime.Reached.step`: every event leads from stage to stage
- `Lifetime.Reached.run`: so does all that happens
-/

namespace RoleDaemon

open Net

/-! ## §1 Events -/

namespace Handle

/-- What can happen to a handle: an operation, the end of its loop, where it can end, or what others do. -/
inductive Event where
  | start (now : Timestamp)
  | stop
  | wait
  | exit
  | outside (change : Outside)

/-- The event is the start of a task by others. -/
def Event.listsTask : Event → Bool
  | outside change => change.listsTask
  | _ => false

/-- The process as others alone have made it. -/
def Event.outsideAll (tasks : Nat) (machine : Machine) (events : List Event) : Machine :=
  events.foldl (fun machine event => match event with
    | outside change => change.change none tasks machine
    | _ => machine) machine

/-- Why a service cannot be started where its endpoint cannot be listened on. -/
def bindFailure (role : Role) (endpoint : Endpoint) (fault : SocketFault) : Cause :=
  ⟨"Failed to bind " ++ role.name ++ " service on " ++ endpoint.text, [fault.message]⟩

/-- Why a service cannot be started again. -/
def startedBefore (role : Role) : Cause := .ofMessage (role.name ++ " service already started")

end Handle

/-- A handle, the process, and what was seen so far. -/
structure Lifetime where
  handle : Handle
  machine : Machine
  /-- What the first start took that succeeded. -/
  held? : Option Holding
  /-- The answers to the starts, the first one first. -/
  answers : List (Except Cause Unit)
  /-- The results of the waits that have returned. -/
  returned : List (Except LoopFault Unit)
  /-- The loop has come to its end. -/
  exited : Bool

namespace Lifetime

open Handle

/-- The handle of a service at an endpoint, which was just bound. -/
def new (role : Role) (tasks : Nat) (endpoint : Endpoint) (machine : Machine) : Lifetime :=
  ⟨.new role tasks ⟨.network endpoint, .serves⟩, machine, none, [], [], false⟩

/-- One event.  A wait that did not return does so at the end of the loop. -/
def step (life : Lifetime) : Event → Lifetime
  | .start now =>
    let (handle, machine, answer) := life.handle.start now life.machine
    { life with
      handle, machine
      held? := life.held?.or handle.holding?
      answers := life.answers ++ [answer] }
  | .stop => { life with handle := life.handle.stop }
  | .wait =>
    let (handle, machine, result?) := life.handle.wait life.machine
    { life with
      handle, machine
      returned := life.returned ++ result?.toList
      exited := life.exited || (life.handle.canEnd && !life.handle.awaited) }
  | .exit =>
    let (handle, machine) := life.handle.endLoop life.machine
    { life with
      handle, machine
      returned := if life.handle.canEnd && life.handle.awaited then
        life.returned ++ [life.handle.outcome] else life.returned
      exited := life.exited || life.handle.canEnd }
  | .outside change =>
    { life with machine := change.change life.handle.holding? life.handle.tasks life.machine }

def run (life : Lifetime) (events : List Event) : Lifetime := events.foldl step life

/-! ## §2 Stages -/

/-- The handle of a service at an endpoint, in a phase. -/
abbrev handleIn (role : Role) (tasks : Nat) (endpoint : Endpoint) (phase : Phase)
    (stopRequested awaited : Bool) : Handle :=
  ⟨role, tasks, ⟨.network endpoint, .serves⟩, phase, stopRequested, awaited⟩

/-- The answers to starts of which the first one had the given answer. -/
def answersFrom (role : Role) (first : Except Cause Unit) (later : Nat) : List (Except Cause Unit) :=
  first :: List.replicate later (.error (startedBefore role))

section

variable (role : Role) (tasks : Nat) (endpoint : Endpoint) (before : Machine)

/-- What a lifetime looks like after the events `past`. -/
inductive Stage (past : List Event) : Lifetime → Prop
  /-- No start was tried. -/
  | idle (stop : Bool) (machine returned)
      (untouched : machine = Event.outsideAll tasks before past) :
      Stage past ⟨handleIn role tasks endpoint .idle stop false, machine, none, [], returned, false⟩
  /-- The start failed. -/
  | refused (stop : Bool) (machine fault later returned)
      (untouched : machine = Event.outsideAll tasks before past) :
      Stage past ⟨handleIn role tasks endpoint .refused stop false, machine, none,
        answersFrom role (.error (bindFailure role endpoint fault)) later, returned, false⟩
  /-- The loop goes on: the listener is open, and the task is listed. -/
  | running (stop awaited : Bool) (machine listener id now later returned)
      (settles : endpoint.Settles listener) (started : .start now ∈ past)
      (listens : machine.sockets.HoldsAlone listener)
      (listed : (machine.tasks tasks).withId id = [⟨id, category, role.name, now⟩]) :
      Stage past ⟨handleIn role tasks endpoint
          (.running ⟨listener.port, some listener, some ⟨tasks, id⟩⟩) stop awaited, machine,
        some ⟨listener, ⟨tasks, id⟩⟩, answersFrom role (.ok ()) later, returned, false⟩
  /-- The loop was stopped and has come to its end. -/
  | ended (awaited : Bool) (machine listener id now later returned)
      (settles : endpoint.Settles listener) (started : .start now ∈ past)
      (finished : (machine.tasks tasks).withId id = []) :
      Stage past ⟨handleIn role tasks endpoint (.ended listener.port) true awaited, machine,
        some ⟨listener, ⟨tasks, id⟩⟩, answersFrom role (.ok ()) later, returned, true⟩

/-- The number of tasks that were listed after the events `past`. -/
def listed (past : List Event) (life : Lifetime) : Nat :=
  past.countP Event.listsTask + life.held?.toList.length

/-- What holds after the events `past`, in each stage. -/
structure Reached (past : List Event) (life : Lifetime) : Prop where
  stage : Stage role tasks endpoint before past life
  stopped : life.handle.stopRequested ↔ .stop ∈ past
  returned : ∀ result ∈ life.returned, result = .ok ()
  lists : tasks < life.machine.taskLists.length
  counts : (life.machine.tasks tasks).Counts (before.tasks tasks).nextId (life.listed past)
  numbered : ∀ holding, life.held? = some holding →
    holding.task.id.toNat < (before.tasks tasks).nextId.toNat + life.listed past

end

variable {role : Role} {tasks : Nat} {endpoint : Endpoint} {before : Machine} {past : List Event}
  {life : Lifetime} {event : Event}

/-! ## §3 Steps -/

theorem answersFrom_succ (role : Role) (first : Except Cause Unit) (later : Nat) :
    answersFrom role first later ++ [.error (startedBefore role)] =
      answersFrom role first (later + 1) := by
  simp [answersFrom, List.replicate_succ']

theorem listed_concat (past : List Event) (event : Event) (life : Lifetime) :
    life.listed (past ++ [event]) = life.listed past + event.listsTask.toNat := by
  unfold listed
  rw [List.countP_append, List.countP_singleton]
  cases event.listsTask <;> simp
  omega

/-- What is not done by others leaves a stage as it is. -/
theorem Stage.later (h : Stage role tasks endpoint before past life)
    (hown : ∀ change, event ≠ .outside change) :
    Stage role tasks endpoint before (past ++ [event]) life := by
  have hothers : Event.outsideAll tasks before past =
      Event.outsideAll tasks before (past ++ [event]) := by
    unfold Event.outsideAll
    rw [List.foldl_append]
    cases event with
    | outside change => exact absurd rfl (hown change)
    | _ => rfl
  cases h with
  | idle stop machine returned untouched => exact .idle stop machine returned (untouched.trans hothers)
  | refused stop machine fault later returned untouched =>
    exact .refused stop machine fault later returned (untouched.trans hothers)
  | running stop awaited machine listener id now later returned settles started listens listed =>
    exact .running stop awaited machine listener id now later returned settles
      (List.mem_append_left _ started) listens listed
  | ended awaited machine listener id now later returned settles started finished =>
    exact .ended awaited machine listener id now later returned settles
      (List.mem_append_left _ started) finished

namespace Reached

/-- One more wait returns well. -/
theorem returned_concat (h : Reached role tasks endpoint before past life) :
    ∀ result ∈ life.returned ++ [.ok ()], result = .ok () := by
  intro result hresult
  rcases List.mem_append.1 hresult with hold | hnew
  · exact h.returned result hold
  · exact List.mem_singleton.1 hnew

/-- An event of the handle that leaves the process and what is held, leaves the numbers too. -/
theorem keep (h : Reached role tasks endpoint before past life)
    (hown : ∀ change, event ≠ .outside change) {life' : Lifetime}
    (hstage : Stage role tasks endpoint before past life')
    (hmachine : life'.machine = life.machine) (hheld : life'.held? = life.held?)
    (hstopped : life'.handle.stopRequested ↔ .stop ∈ past ++ [event])
    (hreturned : ∀ result ∈ life'.returned, result = .ok ()) :
    Reached role tasks endpoint before (past ++ [event]) life' := by
  have hlisted : life'.listed (past ++ [event]) = life.listed past := by
    rw [listed_concat]
    cases event with
    | outside change => exact absurd rfl (hown change)
    | _ => simp [listed, hheld, Event.listsTask]
  refine ⟨hstage.later hown, hstopped, hreturned, ?_, ?_, ?_⟩
  · rw [hmachine]
    exact h.lists
  · rw [hmachine, hlisted]
    exact h.counts
  · rw [hheld, hlisted]
    exact h.numbered

end Reached

/-- A start after the first one is refused and changes nothing. -/
theorem Stage.start_again (h : Stage role tasks endpoint before past life) (hanswers : life.answers ≠ [])
    (now : Timestamp) :
    life.handle.start now life.machine =
        (life.handle, life.machine, .error (startedBefore role)) ∧
      life.held?.or life.handle.holding? = life.held? := by
  cases h with
  | idle => exact absurd rfl hanswers
  | refused => exact ⟨rfl, rfl⟩
  | running => exact ⟨rfl, rfl⟩
  | ended => exact ⟨rfl, rfl⟩

/-- One more answer leaves the stage, but that there is one more. -/
theorem Stage.answered (h : Stage role tasks endpoint before past life) (hanswers : life.answers ≠ []) :
    Stage role tasks endpoint before past
      { life with answers := life.answers ++ [.error (startedBefore role)] } := by
  cases h with
  | idle => exact absurd rfl hanswers
  | refused stop machine fault later returned untouched =>
    simp only [answersFrom_succ]
    exact .refused stop machine fault (later + 1) returned untouched
  | running stop awaited machine listener id now later returned settles started listens listed =>
    simp only [answersFrom_succ]
    exact .running stop awaited machine listener id now (later + 1) returned settles started listens
      listed
  | ended awaited machine listener id now later returned settles started finished =>
    simp only [answersFrom_succ]
    exact .ended awaited machine listener id now (later + 1) returned settles started finished

/-- The first start binds the endpoint, or fails where it cannot be listened on. -/
theorem start_first (role : Role) (tasks : Nat) (endpoint : Endpoint) (stop : Bool) (now : Timestamp)
    (machine : Machine) :
    (∃ fault, machine.sockets.listen endpoint = .error fault ∧
      (handleIn role tasks endpoint .idle stop false).start now machine =
        (handleIn role tasks endpoint .refused stop false, machine,
          .error (bindFailure role endpoint fault))) ∨
    ∃ listener sockets, machine.sockets.listen endpoint = .ok (listener, sockets) ∧
      (handleIn role tasks endpoint .idle stop false).start now machine =
        (handleIn role tasks endpoint (.running ⟨listener.port, some listener,
            some ⟨tasks, (machine.tasks tasks).nextId⟩⟩) stop false,
          ({ machine with sockets }.startTask tasks category role.name now).2.report
            (.serviceListening role listener),
          .ok ()) := by
  cases hlisten : machine.sockets.listen endpoint with
  | error fault =>
    left
    refine ⟨fault, rfl, ?_⟩
    simp only [Handle.start, startNetwork, hlisten]
    rfl
  | ok opened =>
    right
    obtain ⟨listener, sockets⟩ := opened
    refine ⟨listener, sockets, rfl, ?_⟩
    simp only [Handle.start, startNetwork, hlisten]
    rfl

theorem Reached.start (h : Reached role tasks endpoint before past life) (now : Timestamp)
    (hroom : (before.tasks tasks).nextId.toNat + past.countP Event.listsTask < UInt64.size) :
    Reached role tasks endpoint before (past ++ [.start now]) (life.step (.start now)) := by
  have hstopped : ∀ flag : Bool, (flag ↔ .stop ∈ past) → (flag ↔ .stop ∈ past ++ [Event.start now]) := by
    simp
  by_cases hanswers : life.answers = []
  · obtain ⟨hstage, hstop, hreturned, hlists, hcounts, -⟩ := h
    cases hstage with
    | idle stop machine returned untouched =>
      obtain ⟨fault, -, hstart⟩ | ⟨listener, sockets, hlisten, hstart⟩ :=
        start_first role tasks endpoint stop now machine
      · have hstep : step ⟨handleIn role tasks endpoint .idle stop false, machine, none, [], returned,
            false⟩ (.start now) =
          ⟨handleIn role tasks endpoint .refused stop false, machine, none,
            answersFrom role (.error (bindFailure role endpoint fault)) 0, returned, false⟩ := by
          simp only [step, hstart]
          rfl
        rw [hstep]
        exact keep ⟨.idle stop machine returned untouched, hstop, hreturned, hlists, hcounts, by simp⟩
          (by simp) (.refused stop machine fault 0 returned untouched) rfl rfl (hstopped _ hstop)
          hreturned
      · -- the task gets the next number, and the listener a place of its own
        have hopened : tasks < ({ machine with sockets } : Machine).taskLists.length := hlists
        have htasks := Machine.tasks_startTask hopened category role.name now
        have hnumber := hcounts.toNat_nextId hroom
        simp only [step, hstart]
        refine ⟨.running stop false _ listener _ now 0 returned (Sockets.settles_of_listen hlisten)
          (by simp) (Sockets.holdsAlone_of_listen hlisten) ?_, hstopped _ hstop, hreturned, ?_, ?_, ?_⟩
        · exact (congrArg (TaskRegistry.withId · _) htasks).trans
            (hcounts.withId_start_self hroom category role.name now)
        · simpa [Machine.startTask, Machine.report, Machine.increment] using hlists
        · rw [listed_concat]
          exact htasks ▸ hcounts.start hroom category role.name now
        · rintro holding ⟨⟩
          rw [listed_concat]
          exact Nat.lt_succ_of_le (Nat.le_of_eq hnumber)
    | _ => cases hanswers
  · obtain ⟨hstart, hheld⟩ := h.stage.start_again hanswers now
    have hstep : life.step (.start now) =
        { life with answers := life.answers ++ [.error (startedBefore role)] } := by
      simp only [step, hstart, hheld]
    rw [hstep]
    exact h.keep (by simp) (h.stage.answered hanswers) rfl rfl (hstopped _ h.stopped) h.returned

theorem Reached.stop (h : Reached role tasks endpoint before past life) :
    Reached role tasks endpoint before (past ++ [.stop]) (life.step .stop) := by
  have hstage : Stage role tasks endpoint before past (life.step .stop) := by
    cases h.stage with
    | idle stop machine returned untouched => exact .idle true machine returned untouched
    | refused stop machine fault later returned untouched =>
      exact .refused true machine fault later returned untouched
    | running stop awaited machine listener id now later returned settles started listens listed =>
      exact .running true awaited machine listener id now later returned settles started listens listed
    | ended awaited machine listener id now later returned settles started finished =>
      exact .ended awaited machine listener id now later returned settles started finished
  exact h.keep (by simp) hstage rfl rfl (by simp [step, Handle.stop]) h.returned

/-- The loop that comes to its end gives back what the service holds. -/
theorem Reached.over {awaited awaited' : Bool} {machine : Machine} {listener : Endpoint} {id : UInt64}
    {now : Timestamp} {later : Nat} {returned returned' : List (Except LoopFault Unit)}
    (h : Reached role tasks endpoint before past ⟨handleIn role tasks endpoint
        (.running ⟨listener.port, some listener, some ⟨tasks, id⟩⟩) true awaited, machine,
      some ⟨listener, ⟨tasks, id⟩⟩, answersFrom role (.ok ()) later, returned, false⟩)
    (settles : endpoint.Settles listener) (started : .start now ∈ past)
    (hown : ∀ change, event ≠ .outside change) (hstop : event ≠ .stop)
    (hreturned : ∀ result ∈ returned', result = .ok ()) :
    Reached role tasks endpoint before (past ++ [event]) ⟨handleIn role tasks endpoint
        (.ended listener.port) true awaited', machine.giveBack ⟨listener, ⟨tasks, id⟩⟩,
      some ⟨listener, ⟨tasks, id⟩⟩, answersFrom role (.ok ()) later, returned', true⟩ := by
  have htasks : (machine.giveBack ⟨listener, ⟨tasks, id⟩⟩).tasks tasks =
      (machine.tasks tasks).finish id :=
    Machine.tasks_finishTask { machine with sockets := machine.sockets.close listener } tasks id
  have hlisted : event.listsTask = false := by
    cases event with
    | outside change => exact absurd rfl (hown change)
    | _ => rfl
  refine ⟨Stage.later (.ended awaited' _ listener id now later returned' settles started ?_) hown, ?_,
    hreturned, ?_, ?_, ?_⟩
  · rw [htasks]
    exact TaskRegistry.withId_finish_self _ id
  · simpa [hstop.symm] using h.stopped
  · simpa [Machine.giveBack, Machine.finishTask] using h.lists
  · rw [htasks, listed_concat, hlisted]
    exact h.counts.finish id
  · rw [listed_concat, hlisted]
    exact h.numbered

theorem Reached.wait (h : Reached role tasks endpoint before past life) :
    Reached role tasks endpoint before (past ++ [.wait]) (life.step .wait) := by
  have hreturned := h.returned_concat
  have hstopped : life.handle.stopRequested ↔ .stop ∈ past ++ [Event.wait] := by
    simpa using h.stopped
  cases h.stage with
  | idle stop machine returned untouched =>
    exact h.keep (by simp) (.idle stop machine _ untouched) rfl rfl hstopped hreturned
  | refused stop machine fault later returned untouched =>
    exact h.keep (by simp) (.refused stop machine fault later _ untouched) rfl rfl hstopped hreturned
  | running stop awaited machine listener id now later returned settles started listens listed =>
    cases awaited with
    | true =>
      -- somebody waits already, and nobody else has to
      cases stop <;> exact h.keep (by simp) (.running _ true machine listener id now later _ settles
        started listens listed) rfl rfl hstopped hreturned
    | false =>
      cases stop with
      | false =>
        -- the wait is pending, and its result comes at the end of the loop
        have hpending : ∀ result ∈ returned ++ [], result = .ok () := by simpa using h.returned
        exact h.keep (by simp) (.running false true machine listener id now later _ settles started
          listens listed) rfl rfl hstopped hpending
      | true => exact h.over settles started (by simp) (by simp) hreturned
  | ended awaited machine listener id now later returned settles started finished =>
    cases awaited with
    | true =>
      exact h.keep (by simp) (.ended true machine listener id now later _ settles started finished) rfl
        rfl hstopped hreturned
    | false =>
      exact h.keep (by simp) (.ended true machine listener id now later _ settles started finished) rfl
        rfl hstopped hreturned

theorem Reached.exit (h : Reached role tasks endpoint before past life) :
    Reached role tasks endpoint before (past ++ [.exit]) (life.step .exit) := by
  have hstopped : life.handle.stopRequested ↔ .stop ∈ past ++ [Event.exit] := by
    simpa using h.stopped
  cases h.stage with
  | idle stop machine returned untouched =>
    exact h.keep (by simp) (.idle stop machine returned untouched) rfl rfl hstopped h.returned
  | refused stop machine fault later returned untouched =>
    exact h.keep (by simp) (.refused stop machine fault later returned untouched) rfl rfl hstopped
      h.returned
  | running stop awaited machine listener id now later returned settles started listens listed =>
    cases stop with
    | false =>
      exact h.keep (by simp) (.running false awaited machine listener id now later returned settles
        started listens listed) rfl rfl hstopped h.returned
    | true =>
      have hreturned : ∀ result ∈ if awaited then returned ++ [.ok ()] else returned,
          result = .ok () := by
        intro result hresult
        cases awaited with
        | false => exact h.returned result hresult
        | true => exact h.returned_concat result hresult
      exact h.over settles started (by simp) (by simp) hreturned
  | ended awaited machine listener id now later returned settles started finished =>
    exact h.keep (by simp) (.ended awaited machine listener id now later returned settles started
      finished) rfl rfl hstopped h.returned

theorem Reached.outside (h : Reached role tasks endpoint before past life) (change : Outside)
    (hroom : (before.tasks tasks).nextId.toNat +
      (past ++ [Event.outside change]).countP Event.listsTask < UInt64.size) :
    Reached role tasks endpoint before (past ++ [.outside change]) (life.step (.outside change)) := by
  have hlisted : (life.step (.outside change)).listed (past ++ [.outside change]) =
      life.listed past + change.listsTask.toNat := listed_concat ..
  have hnumbers : change.listsTask →
      (before.tasks tasks).nextId.toNat + life.listed past < UInt64.size := by
    intro hlists
    have hheld : life.held?.toList.length ≤ 1 := by
      cases life.held? <;> simp
    rw [List.countP_append, List.countP_singleton] at hroom
    simp only [Event.listsTask, hlists, if_true] at hroom
    unfold listed
    omega
  have htasks : life.handle.tasks = tasks := by
    cases h.stage <;> rfl
  have hothers : Event.outsideAll tasks before (past ++ [.outside change]) =
      change.change none tasks (Event.outsideAll tasks before past) := List.foldl_append ..
  have hstopped : life.handle.stopRequested ↔ .stop ∈ past ++ [Event.outside change] := by
    simpa using h.stopped
  refine ⟨?_, hstopped, h.returned, ?_, ?_, ?_⟩
  · cases h.stage with
    | idle stop machine returned untouched =>
      exact .idle stop _ returned (untouched ▸ hothers.symm)
    | refused stop machine fault later returned untouched =>
      exact .refused stop _ fault later returned (untouched ▸ hothers.symm)
    | running stop awaited machine listener id now later returned settles started listens listed =>
      exact .running stop awaited _ listener id now later returned settles
        (List.mem_append_left _ started) (change.holdsAlone_change listens)
        ((change.withId_change h.lists h.counts hnumbers (h.numbered _ rfl) (.inl (by simp [holding?]))).trans listed)
    | ended awaited machine listener id now later returned settles started finished =>
      exact .ended awaited _ listener id now later returned settles (List.mem_append_left _ started)
        ((change.withId_change h.lists h.counts hnumbers (h.numbered _ rfl) (.inr finished)).trans
          finished)
  · simp only [step, htasks]
    exact (change.tasks_change life.handle.holding? h.lists).1
  · simp only [step, htasks]
    exact hlisted ▸ change.counts_change life.handle.holding? h.lists h.counts hnumbers
  · intro holding hholding
    have hbelow := h.numbered holding hholding
    rw [hlisted]
    omega

/-! ## §4 Runs -/

theorem Reached.step (h : Reached role tasks endpoint before past life) (event : Event)
    (hroom : (before.tasks tasks).nextId.toNat + (past ++ [event]).countP Event.listsTask < UInt64.size) :
    Reached role tasks endpoint before (past ++ [event]) (life.step event) := by
  cases event with
  | start now =>
    apply h.start now
    rw [List.countP_append] at hroom
    omega
  | stop => exact h.stop
  | wait => exact h.wait
  | exit => exact h.exit
  | outside change => exact h.outside change hroom

theorem Reached.run (h : Reached role tasks endpoint before past life) (events : List Event)
    (hroom : (before.tasks tasks).nextId.toNat + (past ++ events).countP Event.listsTask < UInt64.size) :
    Reached role tasks endpoint before (past ++ events) (life.run events) := by
  induction events generalizing past life with
  | nil => exact (List.append_nil past).symm ▸ h
  | cons event events ih =>
    have hsplit : past ++ event :: events = (past ++ [event]) ++ events := by simp
    rw [hsplit] at hroom ⊢
    -- the numbers that last for all events last for the first one
    apply ih (h.step event ?_) hroom
    rw [List.countP_append] at hroom
    omega

theorem reached_new (role : Role) (endpoint : Endpoint) (hlists : tasks < before.taskLists.length)
    (hnumbers : ∀ task ∈ (before.tasks tasks).live, task.id < (before.tasks tasks).nextId) :
    Reached role tasks endpoint before [] (new role tasks endpoint before) := by
  refine ⟨.idle false before [] rfl, by simp [new, Handle.new], nofun, hlists, ⟨?_, ?_⟩, nofun⟩
  · simp [listed, new]
  · exact fun task htask => UInt64.lt_iff_toNat_lt.1 (hnumbers task htask)

/-- What the first successful start took stays known. -/
theorem held?_run {holding : Holding} (h : life.held? = some holding) (events : List Event) :
    (life.run events).held? = some holding := by
  induction events generalizing life with
  | nil => exact h
  | cons event events ih =>
    have hstep : (life.step event).held? = some holding := by
      cases event with
      | start now => simp [step, h]
      | _ => exact h
    exact ih hstep

/-- The loop ends once. -/
theorem exited_run (h : life.exited) (events : List Event) : (life.run events).exited := by
  induction events generalizing life with
  | nil => exact h
  | cons event events ih =>
    have hstep : (life.step event).exited := by
      cases event with
      | wait => simp [step, h]
      | exit => simp [step, h]
      | _ => exact h
    exact ih hstep

end Lifetime

end RoleDaemon

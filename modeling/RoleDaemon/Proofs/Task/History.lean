import RoleDaemon.Proofs.Metrics.Book
import RoleDaemon.Proofs.Task.Registry

/-!
# Live Tasks over a History

Any number of lists of live tasks share the counter of the tasks that were created.  Tasks are registered
with a list under a guard, or spawned, and end in any order: when their guard is dropped, or when they
complete.  Whatever happens, each list holds the tasks that were registered with it and are not over.

## Architecture

- `TaskEvent`: what can happen around the lists, and around the other metrics of the process
- `TaskHistory`: a process with all tasks that were registered, as the events gave them
- `TaskHistory.Listed`: the invariant: numbers, and what each list holds, from the registered tasks alone
- `TaskHistory.Counted`: the invariant of the shared counter
- `Listed.step`, `Counted.step`: one event keeps them, and so do all by `Listed.run` and `Counted.run`

Main statements:
- `TaskHistory.tasks_follow_history`: the lists and the counter after any history
-/

namespace RoleDaemon

open Metrics

/-! ## §1 Histories -/

/-- What happens around the lists of live tasks.  Tasks are known by their place in the order of all
registrations. -/
inductive TaskEvent where
  /-- One more list is made, which fails where the name of the counter is taken by another metric. -/
  | create
  /-- A task is registered with a list, under a guard. -/
  | register (list : Nat) (category name : String) (now : Timestamp)
  /-- A task is spawned and registered with a list while it runs. -/
  | spawn (list : Nat) (category name : String) (now : Timestamp)
  /-- The guard of a registered task is dropped. -/
  | drop (place : Nat)
  /-- A spawned task completes. -/
  | complete (place : Nat)
  /-- Something is done with the metrics of the process. -/
  | metric (action : Action)

/-- The event counts a task without registering it. -/
def TaskEvent.CountsElsewhere (event : TaskEvent) : Prop :=
  ∃ amount, event = .metric (.increment Machine.tasksCreated amount)

/-- A task as it was registered. -/
structure RegisteredTask where
  ref : TaskRef
  category : String
  name : String
  startedAt : Timestamp
  isSpawned : Bool
  /-- The guard was dropped, or the task completed. -/
  isOver : Bool

/-- What a list tells about the task. -/
def RegisteredTask.info (task : RegisteredTask) : TaskInfo :=
  ⟨task.ref.id, task.category, task.name, task.startedAt⟩

/-- What a list tells, when it holds those of the tasks that were registered with it and are not over. -/
def RegisteredTask.toldBy (list : Nat) (tasks : List RegisteredTask) : List TaskInfo :=
  (tasks.filter fun task => task.ref.list = list ∧ task.isOver = false).map info

/-- A process, and all tasks that were registered, the first one first. -/
structure TaskHistory where
  machine : Machine
  tasks : List RegisteredTask

namespace TaskHistory

/-- A new process. -/
def start (taken : List Net.Endpoint) : TaskHistory := ⟨.fresh taken, []⟩

/-- A task starts in a list that there is. -/
def enlist (history : TaskHistory) (isSpawned : Bool) (list : Nat) (category name : String)
    (now : Timestamp) : TaskHistory :=
  if list < history.machine.taskLists.length then
    let (ref, machine) := history.machine.startTask list category name now
    ⟨machine, history.tasks ++ [⟨ref, category, name, now, isSpawned, false⟩]⟩
  else history

/-- A task that is not over ends, by the drop of its guard or by its completion. -/
def conclude (history : TaskHistory) (isSpawned : Bool) (place : Nat) : TaskHistory :=
  match history.tasks[place]? with
  | some task =>
    if task.isSpawned = isSpawned ∧ task.isOver = false then
      ⟨history.machine.finishTask task.ref, history.tasks.set place { task with isOver := true }⟩
    else history
  | none => history

/-- One more event. -/
def step (history : TaskHistory) : TaskEvent → TaskHistory
  | .create => { history with machine := history.machine.newTaskList.1 }
  | .register list category name now => history.enlist false list category name now
  | .spawn list category name now => history.enlist true list category name now
  | .drop place => history.conclude false place
  | .complete place => history.conclude true place
  | .metric action =>
    if action.isPossible history.machine.metrics then
      { history with machine := { history.machine with
        metrics := (action.run history.machine.metrics).2 } }
    else history

/-- The events, one after the other. -/
def run (history : TaskHistory) (events : List TaskEvent) : TaskHistory :=
  events.foldl step history

/-- The tasks that were registered with a list, in order. -/
def ofList (history : TaskHistory) (list : Nat) : List RegisteredTask :=
  history.tasks.filter (·.ref.list = list)

/-- The shared counter, which is zero as long as there is none. -/
def counted (history : TaskHistory) : UInt64 :=
  (history.machine.metrics.counter? Machine.tasksCreated).getD 0

/-! ## §2 What an Event Does -/

/-- One more list is there, or none is and the metrics are as they were. -/
theorem newTaskList_cases (machine : Machine) :
    machine.newTaskList.1 = machine ∨ ∃ metrics,
      machine.metrics.declare Machine.tasksCreatedFamily = .ok metrics ∧
        machine.newTaskList.1 =
          { machine with metrics := metrics, taskLists := machine.taskLists ++ [.empty] } := by
  unfold Machine.newTaskList Machine.enroll Registry.enroll Registry.enrollOne
  cases hdeclare : machine.metrics.declare Machine.tasksCreatedFamily with
  | error cause => exact .inl rfl
  | ok metrics => exact .inr ⟨metrics, rfl, rfl⟩

theorem tasks_newTaskList (machine : Machine) (list : Nat) :
    machine.newTaskList.1.tasks list = machine.tasks list := by
  obtain hsame | ⟨metrics, -, hnew⟩ := newTaskList_cases machine
  · rw [hsame]
  · rw [hnew, Machine.tasks, Machine.tasks]
    rcases Nat.lt_trichotomy list machine.taskLists.length with h | h | h
    · simp [List.getElem?_append_left h]
    · simp [h]
    · simp [List.getElem?_append_right (Nat.le_of_lt h), Nat.sub_ne_zero_of_lt h, Nat.le_of_lt h]

variable {history : TaskHistory}

open RegisteredTask (toldBy)

theorem toldBy_append (list : Nat) (front back : List RegisteredTask) :
    toldBy list (front ++ back) = toldBy list front ++ toldBy list back := by
  simp [toldBy]

theorem toldBy_cons (list : Nat) (task : RegisteredTask) (tasks : List RegisteredTask) :
    toldBy list (task :: tasks) =
      (if task.ref.list = list ∧ task.isOver = false then [task.info] else []) ++ toldBy list tasks := by
  by_cases h : task.ref.list = list ∧ task.isOver = false
  · simp [toldBy, h]
  · simp only [toldBy, List.filter_cons, h, decide_false, Bool.false_eq_true, if_false, List.nil_append]

/-- A task that starts is registered behind all others, under the next number of its list. -/
theorem enlist_cases (history : TaskHistory) (isSpawned : Bool) (list : Nat) (category name : String)
    (now : Timestamp) :
    history.enlist isSpawned list category name now = history ∨
      list < history.machine.taskLists.length ∧
        history.enlist isSpawned list category name now =
          ⟨(history.machine.startTask list category name now).2, history.tasks ++
            [⟨⟨list, (history.machine.tasks list).nextId⟩, category, name, now, isSpawned, false⟩]⟩ := by
  unfold enlist
  split_ifs with hlist
  · exact .inr ⟨hlist, rfl⟩
  · exact .inl rfl

/-- A task that ends stays between the others, as one that is over. -/
theorem conclude_cases (history : TaskHistory) (isSpawned : Bool) (place : Nat) :
    history.conclude isSpawned place = history ∨ ∃ front task back,
      history.tasks = front ++ task :: back ∧ task.isOver = false ∧
        history.conclude isSpawned place =
          ⟨history.machine.finishTask task.ref, front ++ { task with isOver := true } :: back⟩ := by
  unfold conclude
  split
  · rename_i task hplace
    split_ifs with hends
    · obtain ⟨hlt, htask⟩ := List.getElem?_eq_some_iff.1 hplace
      have hsplit : history.tasks =
          history.tasks.take place ++ task :: history.tasks.drop (place + 1) := by
        rw [← htask, List.getElem_cons_drop, List.take_append_drop]
      refine .inr ⟨_, task, _, hsplit, hends.2, ?_⟩
      rw [List.set_eq_take_append_cons_drop, if_pos hlt]
    · exact .inl rfl
  · exact .inl rfl

/-! ## §3 The Lists -/

/-- Numbers and lists as the registered tasks have it: the tasks of a list have the numbers 1, 2, 3 and so
on, and the list holds those that are not over. -/
structure Listed (history : TaskHistory) : Prop where
  known : ∀ task ∈ history.tasks, task.ref.list < history.machine.taskLists.length
  numbers : ∀ list, (history.ofList list).map (·.ref.id.toNat) =
    List.range' 1 (history.ofList list).length
  next : ∀ list, (history.machine.tasks list).nextId = .ofNat ((history.ofList list).length + 1)
  live : ∀ list, (history.machine.tasks list).live = toldBy list history.tasks

namespace Listed

theorem start (taken : List Net.Endpoint) : Listed (start taken) where
  known := by simp [TaskHistory.start]
  numbers := by simp [TaskHistory.start, ofList]
  next := by
    intro list
    simp only [TaskHistory.start, Machine.fresh, Machine.tasks, ofList]
    rfl
  live := by
    intro list
    simp only [TaskHistory.start, Machine.fresh, Machine.tasks]
    rfl

/-- The numbers of the tasks that a list holds grow. -/
theorem pairwise_live (h : history.Listed) (list : Nat) :
    (history.machine.tasks list).live.Pairwise (·.id < ·.id) := by
  -- all tasks of the list have growing numbers, and those that it holds are some of them
  have hall : (history.ofList list).Pairwise (·.ref.id < ·.ref.id) := by
    have hrange : ((history.ofList list).map (·.ref.id.toNat)).Pairwise (· < ·) := by
      rw [h.numbers list]
      exact List.pairwise_lt_range'
    exact (List.pairwise_map.1 hrange).imp fun hlt => UInt64.lt_iff_toNat_lt.2 hlt
  have hsublist : (history.tasks.filter fun task =>
      task.ref.list = list ∧ task.isOver = false).Sublist (history.ofList list) := by
    have hfilter : (history.tasks.filter fun task => task.ref.list = list ∧ task.isOver = false) =
        (history.ofList list).filter fun task => task.isOver = false := by
      simp [ofList, List.filter_filter, Bool.and_comm]
    rw [hfilter]
    exact List.filter_sublist
  rw [h.live list, toldBy, List.pairwise_map]
  exact hall.sublist hsublist

theorem nodup_live (h : history.Listed) (list : Nat) :
    ((history.machine.tasks list).live.map (·.id)).Nodup := by
  rw [List.nodup_iff_pairwise_ne, List.pairwise_map]
  exact (h.pairwise_live list).imp fun hlt => UInt64.ne_of_lt hlt

theorem create (h : history.Listed) : Listed (history.step .create) where
  known := by
    intro task htask
    have hlist := h.known task htask
    obtain hsame | ⟨metrics, -, hnew⟩ := newTaskList_cases history.machine
    · simpa only [step, hsame] using hlist
    · simp only [step, hnew, List.length_append]
      omega
  numbers := h.numbers
  next := fun list => (congrArg TaskRegistry.nextId (tasks_newTaskList _ list)).trans (h.next list)
  live := fun list => (congrArg TaskRegistry.live (tasks_newTaskList _ list)).trans (h.live list)

theorem enlist (h : history.Listed) (isSpawned : Bool) (list : Nat) (category name : String)
    (now : Timestamp)
    (hroom : (history.enlist isSpawned list category name now).tasks.length < UInt64.size) :
    Listed (history.enlist isSpawned list category name now) := by
  obtain hsame | ⟨hlist, hnew⟩ := history.enlist_cases isSpawned list category name now
  · rwa [hsame]
  rw [hnew, List.length_append, List.length_singleton] at hroom
  rw [hnew]
  have hlength : (history.ofList list).length ≤ history.tasks.length := List.length_filter_le _ _
  -- the next number is not around the end of its 64 bits
  have hid : (history.machine.tasks list).nextId.toNat = (history.ofList list).length + 1 := by
    rw [h.next list, UInt64.toNat_ofNat']
    exact Nat.mod_eq_of_lt (Nat.lt_of_le_of_lt (Nat.succ_le_succ hlength) hroom)
  constructor
  · intro task htask
    simp only [Machine.startTask, Machine.increment, List.length_set]
    rcases List.mem_append.1 htask with hold | hadded
    · exact h.known task hold
    · rw [List.mem_singleton.1 hadded]
      exact hlist
  · -- a list that is not the one of the task has the same tasks, here and in what follows
    intro other
    have hnumbers := h.numbers other
    by_cases hother : list = other
    · subst hother
      simp only [ofList] at hnumbers hid ⊢
      rw [List.filter_append, List.map_append, hnumbers, List.length_append]
      simp [hid, List.range'_1_concat, Nat.add_comm 1]
    · simpa [ofList, List.filter_append, hother] using hnumbers
  · intro other
    have hnext := h.next other
    by_cases hother : list = other
    · subst hother
      simp only [ofList] at hnext
      rw [Machine.tasks_startTask hlist]
      simp [ofList, List.filter_append, TaskRegistry.start, hnext]
    · rw [Machine.tasks_startTask_of_ne (Ne.symm hother)]
      simpa [ofList, List.filter_append, hother] using hnext
  · intro other
    have hlive := h.live other
    by_cases hother : list = other
    · subst hother
      rw [Machine.tasks_startTask hlist, toldBy_append, ← hlive]
      simp [toldBy, TaskRegistry.start, RegisteredTask.info]
    · rw [Machine.tasks_startTask_of_ne (Ne.symm hother), toldBy_append, hlive]
      simp [toldBy, hother]

/-- What a list holds around a task that is not over. -/
theorem live_split (h : history.Listed) {front back : List RegisteredTask} {task : RegisteredTask}
    (htasks : history.tasks = front ++ task :: back) (hopen : task.isOver = false) :
    (history.machine.tasks task.ref.list).live =
        toldBy task.ref.list front ++ task.info :: toldBy task.ref.list back ∧
      ((history.machine.finishTask task.ref).tasks task.ref.list).live =
        toldBy task.ref.list front ++ toldBy task.ref.list back := by
  have hbefore : (history.machine.tasks task.ref.list).live =
      toldBy task.ref.list front ++ task.info :: toldBy task.ref.list back := by
    rw [h.live, htasks, toldBy_append, toldBy_cons, if_pos ⟨rfl, hopen⟩]
    rfl
  refine ⟨hbefore, ?_⟩
  rw [show task.ref = ⟨task.ref.list, task.info.id⟩ from rfl, Machine.tasks_finishTask,
    TaskRegistry.live_finish hbefore (h.nodup_live _)]

/-- The places of the tasks of a list are known from the places of all tasks. -/
theorem map_ref_ofList (history : TaskHistory) (list : Nat) :
    (history.ofList list).map (·.ref) = (history.tasks.map (·.ref)).filter (·.list = list) := by
  rw [ofList, List.filter_map]
  rfl

theorem conclude (h : history.Listed) (isSpawned : Bool) (place : Nat) :
    Listed (history.conclude isSpawned place) := by
  obtain hsame | ⟨front, task, back, htasks, hopen, hnew⟩ := history.conclude_cases isSpawned place
  · rwa [hsame]
  rw [hnew]
  -- the end of a task changes no place
  have hall : (front ++ { task with isOver := true } :: back).map (·.ref) =
      history.tasks.map (·.ref) := by
    simp [htasks]
  have hrefs : ∀ list, (ofList ⟨history.machine.finishTask task.ref,
      front ++ { task with isOver := true } :: back⟩ list).map (·.ref) =
        (history.ofList list).map (·.ref) := by
    intro list
    rw [map_ref_ofList, map_ref_ofList, hall]
  have hlengths : ∀ list, (ofList ⟨history.machine.finishTask task.ref,
      front ++ { task with isOver := true } :: back⟩ list).length = (history.ofList list).length := by
    intro list
    simpa using congrArg List.length (hrefs list)
  constructor
  · intro other hother
    have href : other.ref ∈ history.tasks.map (·.ref) := hall ▸ List.mem_map_of_mem hother
    obtain ⟨old, hold, hsame⟩ := List.mem_map.1 href
    have hknown := h.known old hold
    rw [hsame] at hknown
    simpa [Machine.finishTask] using hknown
  · intro list
    have hids := congrArg (List.map (·.id.toNat)) (hrefs list)
    rw [List.map_map, List.map_map] at hids
    rw [hlengths]
    exact hids.trans (h.numbers list)
  · intro list
    rw [hlengths, ← h.next list]
    by_cases hown : list = task.ref.list
    · rw [hown, Machine.tasks_finishTask]
      rfl
    · rw [Machine.tasks_finishTask_of_ne hown]
  · intro list
    rw [toldBy_append, toldBy_cons, if_neg (by simp), List.nil_append]
    by_cases hown : list = task.ref.list
    · subst hown
      exact (h.live_split htasks hopen).2
    · rw [Machine.tasks_finishTask_of_ne hown, h.live list, htasks, toldBy_append, toldBy_cons,
        if_neg (by simp [Ne.symm hown]), List.nil_append]

/-- One event keeps the lists as the registered tasks have it. -/
theorem step (h : history.Listed) (event : TaskEvent)
    (hroom : (history.step event).tasks.length < UInt64.size) : Listed (history.step event) := by
  cases event with
  | create => exact h.create
  | register list category name now => exact h.enlist false list category name now hroom
  | spawn list category name now => exact h.enlist true list category name now hroom
  | drop place => exact h.conclude false place
  | complete place => exact h.conclude true place
  | metric action =>
    simp only [TaskHistory.step]
    split_ifs
    · exact ⟨h.known, h.numbers, h.next, h.live⟩
    · exact h

end Listed

/-- No registration is forgotten. -/
theorem length_le_step (history : TaskHistory) (event : TaskEvent) :
    history.tasks.length ≤ (history.step event).tasks.length := by
  have henlist : ∀ isSpawned list category name now,
      history.tasks.length ≤ (history.enlist isSpawned list category name now).tasks.length := by
    intro isSpawned list category name now
    obtain hsame | ⟨-, hnew⟩ := history.enlist_cases isSpawned list category name now
    · rw [hsame]
    · simp [hnew]
  have hconclude : ∀ isSpawned place,
      history.tasks.length ≤ (history.conclude isSpawned place).tasks.length := by
    intro isSpawned place
    obtain hsame | ⟨front, task, back, htasks, -, hnew⟩ := history.conclude_cases isSpawned place
    · rw [hsame]
    · simp [hnew, htasks]
  cases event with
  | create => exact le_rfl
  | register list category name now => exact henlist false list category name now
  | spawn list category name now => exact henlist true list category name now
  | drop place => exact hconclude false place
  | complete place => exact hconclude true place
  | metric action =>
    simp only [step]
    split_ifs <;> exact le_rfl

theorem length_le_run (history : TaskHistory) (events : List TaskEvent) :
    history.tasks.length ≤ (history.run events).tasks.length := by
  induction events generalizing history with
  | nil => exact le_rfl
  | cons event events ih => exact (history.length_le_step event).trans (ih (history.step event))

theorem Listed.run (h : history.Listed) (events : List TaskEvent)
    (hroom : (history.run events).tasks.length < UInt64.size) : (history.run events).Listed := by
  induction events generalizing history with
  | nil => exact h
  | cons event events ih =>
    -- the bound is one on all registrations, of which there are no more after the first event
    have hlater := length_le_run (history.step event) events
    exact ih (h.step event (Nat.lt_of_le_of_lt hlater hroom)) hroom

/-! ## §4 The Shared Counter -/

/-- The counter has counted the tasks that were registered, and is there as soon as there is a list. -/
structure Counted (history : TaskHistory) : Prop where
  amount : history.counted = .ofNat history.tasks.length
  registered : history.machine.taskLists ≠ [] →
    (history.machine.metrics.counter? Machine.tasksCreated).isSome

namespace Counted

theorem start (taken : List Net.Endpoint) : Counted (start taken) :=
  ⟨rfl, fun hlists => absurd rfl hlists⟩

/-- What is done with the metrics without counting leaves the amount. -/
theorem run_action {registry : Registry} {action : Action} (hpossible : action.isPossible registry)
    (hother : ∀ amount, action ≠ .increment Machine.tasksCreated amount) :
    ((action.run registry).2.counter? Machine.tasksCreated).getD 0 =
        (registry.counter? Machine.tasksCreated).getD 0 ∧
      ((registry.counter? Machine.tasksCreated).isSome →
        ((action.run registry).2.counter? Machine.tasksCreated).isSome) := by
  obtain hsame | ⟨hnone, hzero⟩ := Action.counter?_run hpossible hother
  · rw [hsame]
    exact ⟨rfl, id⟩
  · rw [hnone, hzero]
    exact ⟨rfl, fun _ => rfl⟩

theorem create (h : history.Counted) : Counted (history.step .create) := by
  obtain hsame | ⟨metrics, hdeclare, hnew⟩ := newTaskList_cases history.machine
  · simpa only [step, hsame] using h
  -- the registration of the counter counts nothing, whether the counter was there or not
  have hpossible : (Action.register Machine.tasksCreatedFamily).isPossible history.machine.metrics :=
    Family.isDeclared_family .counter _ _
  have hrun : ((Action.register Machine.tasksCreatedFamily).run history.machine.metrics).2 =
      metrics := by
    simp only [Action.run, hdeclare]
  have hamount := (run_action hpossible (by simp)).1
  rw [hrun] at hamount
  constructor
  · simpa only [step, counted, hnew] using hamount.trans h.amount
  · intro _
    have hfind := Registry.find?_declare hdeclare .counter Machine.tasksCreated
    have hnamed : Machine.tasksCreatedFamily.isNamed .counter Machine.tasksCreated := by decide
    simp only [step, hnew, Registry.isSome_counter?, hfind, hnamed, if_true]
    cases history.machine.metrics.find? .counter Machine.tasksCreated <;> rfl

theorem enlist (h : history.Counted) (isSpawned : Bool) (list : Nat) (category name : String)
    (now : Timestamp) : Counted (history.enlist isSpawned list category name now) := by
  obtain hsame | ⟨hlist, hnew⟩ := history.enlist_cases isSpawned list category name now
  · rwa [hsame]
  -- a task starts in some list, and so the counter is there to count it
  have hlists : history.machine.taskLists ≠ [] := by
    intro hnone
    rw [hnone] at hlist
    exact Nat.not_lt_zero _ hlist
  obtain ⟨value, hvalue⟩ := Option.isSome_iff_exists.1 (h.registered hlists)
  have hamount : value = .ofNat history.tasks.length := by
    simpa [counted, hvalue] using h.amount
  have hcounter : (history.machine.startTask list category name now).2.metrics.counter?
      Machine.tasksCreated = some (value + 1) := by
    simp [Machine.startTask, Machine.increment, Registry.counter?_increment, hvalue]
  rw [hnew]
  constructor
  · simp [counted, hcounter, hamount, UInt64.ofNat_add]
  · intro _
    simp [hcounter]

theorem conclude (h : history.Counted) (isSpawned : Bool) (place : Nat) :
    Counted (history.conclude isSpawned place) := by
  obtain hsame | ⟨front, task, back, htasks, -, hnew⟩ := history.conclude_cases isSpawned place
  · rwa [hsame]
  have hamount := h.amount
  have hregistered := h.registered
  rw [hnew]
  constructor
  · have hlength : (front ++ { task with isOver := true } :: back).length = history.tasks.length := by
      simp [htasks]
    rw [hlength]
    exact hamount
  · intro hlists
    refine hregistered ?_
    simpa [Machine.finishTask] using hlists

/-- One event that does not count elsewhere keeps the counter as the registered tasks have it. -/
theorem step (h : history.Counted) {event : TaskEvent} (hevent : ¬event.CountsElsewhere) :
    Counted (history.step event) := by
  cases event with
  | create => exact h.create
  | register list category name now => exact h.enlist false list category name now
  | spawn list category name now => exact h.enlist true list category name now
  | drop place => exact h.conclude false place
  | complete place => exact h.conclude true place
  | metric action =>
    simp only [TaskHistory.step]
    split_ifs with hpossible
    · have hother : ∀ amount, action ≠ .increment Machine.tasksCreated amount :=
        fun amount heq => hevent ⟨amount, congrArg TaskEvent.metric heq⟩
      obtain ⟨hamount, hregistered⟩ := run_action hpossible hother
      exact ⟨hamount.trans h.amount, fun hlists => hregistered (h.registered hlists)⟩
    · exact h

end Counted

theorem Counted.run (h : history.Counted) {events : List TaskEvent}
    (hevents : ∀ event ∈ events, ¬event.CountsElsewhere) : (history.run events).Counted := by
  induction events generalizing history with
  | nil => exact h
  | cons event events ih =>
    exact ih (h.step (hevents event (by simp))) fun later hlater =>
      hevents later (List.mem_cons_of_mem _ hlater)

/-! ## §5 Lists and Counter -/

/-- The event that ends the task at the given place: the drop of its guard, or its completion. -/
def ending (task : RegisteredTask) (place : Nat) : TaskEvent :=
  if task.isSpawned then .complete place else .drop place

theorem step_ending (history : TaskHistory) (task : RegisteredTask) (place : Nat) :
    history.step (ending task place) = history.conclude task.isSpawned place := by
  cases hspawned : task.isSpawned <;> simp [ending, step, hspawned]

/-- The end of a task has removed it from its own list, and has changed nothing else. -/
structure EndsAlone (before after : Machine) (task : RegisteredTask) : Prop where
  own : ∃ front back, (before.tasks task.ref.list).live = front ++ task.info :: back ∧
    (after.tasks task.ref.list).live = front ++ back
  others : ∀ list ≠ task.ref.list, after.tasks list = before.tasks list
  rest : after.metrics = before.metrics ∧ after.sockets = before.sockets ∧ after.log = before.log

/-- The end of a task that is not over is noted, and it ends alone. -/
theorem Listed.endsAlone (h : history.Listed) {front back : List RegisteredTask}
    {task : RegisteredTask} (htasks : history.tasks = front ++ task :: back)
    (hopen : task.isOver = false) :
    (history.step (ending task front.length)).tasks =
        front ++ { task with isOver := true } :: back ∧
      EndsAlone history.machine (history.step (ending task front.length)).machine task := by
  have hnew : history.step (ending task front.length) =
      ⟨history.machine.finishTask task.ref, front ++ { task with isOver := true } :: back⟩ := by
    simp [step_ending, TaskHistory.conclude, hopen, htasks]
  rw [hnew]
  exact ⟨rfl, ⟨_, _, h.live_split htasks hopen⟩,
    fun list hlist => Machine.tasks_finishTask_of_ne hlist task.ref.id, rfl, rfl, rfl⟩

/-- **Live tasks over a history.**  After any events with fewer than 2^64 registrations:

    - each list holds the tasks that were registered with it and are not over, with what they were
      registered under, in the order of their numbers, and tells how many these are; and the tasks that
      were registered with it have the numbers 1, 2, 3 and so on;
    - whenever a task that is not over ends, it is removed from its own list, and nothing else changes;
    - when nobody else counts, the shared counter has counted all registrations, as soon as there is a
      list, and it was never higher before. -/
theorem tasks_follow_history (taken : List Net.Endpoint) (events : List TaskEvent)
    (hroom : ((start taken).run events).tasks.length < 2 ^ 64) :
    let history := (start taken).run events
    (∀ list,
      (history.machine.tasks list).live = toldBy list history.tasks ∧
      (history.machine.tasks list).live.Pairwise (·.id < ·.id) ∧
      (history.machine.tasks list).liveCount = (toldBy list history.tasks).length ∧
      (history.ofList list).map (·.ref.id.toNat) = List.range' 1 (history.ofList list).length) ∧
    (∀ front task back, history.tasks = front ++ task :: back → task.isOver = false →
      (history.step (ending task front.length)).tasks =
          front ++ { task with isOver := true } :: back ∧
        EndsAlone history.machine (history.step (ending task front.length)).machine task) ∧
    ((∀ event ∈ events, ¬event.CountsElsewhere) →
      (history.machine.taskLists ≠ [] → history.machine.metrics.counter? Machine.tasksCreated =
        some (.ofNat history.tasks.length)) ∧
      ∀ earlier later, events = earlier ++ later →
        ((start taken).run earlier).counted ≤ history.counted) := by
  intro history
  have hlisted : history.Listed := (Listed.start taken).run events hroom
  refine ⟨fun list => ?_, fun front task back => hlisted.endsAlone, fun hevents => ?_⟩
  · have hlive := hlisted.live list
    refine ⟨hlive, hlisted.pairwise_live list, ?_, hlisted.numbers list⟩
    rw [TaskRegistry.liveCount, hlive]
  · have hcounted : history.Counted := (Counted.start taken).run hevents
    constructor
    · intro hlists
      obtain ⟨value, hvalue⟩ := Option.isSome_iff_exists.1 (hcounted.registered hlists)
      have hamount := hcounted.amount
      rw [counted, hvalue, Option.getD_some] at hamount
      rw [hvalue, hamount]
    · rintro earlier later rfl
      have hbefore : ((start taken).run earlier).Counted :=
        (Counted.start taken).run fun event hevent => hevents event (List.mem_append_left _ hevent)
      have hlength : ((start taken).run earlier).tasks.length ≤ history.tasks.length := by
        have hlater := length_le_run ((start taken).run earlier) later
        rwa [run, run, ← List.foldl_append] at hlater
      -- both amounts are numbers of registrations, which are fewer than the counter can hold
      rw [hbefore.amount, hcounted.amount, UInt64.le_iff_toNat_le, UInt64.toNat_ofNat',
        UInt64.toNat_ofNat', Nat.mod_eq_of_lt (Nat.lt_of_le_of_lt hlength hroom),
        Nat.mod_eq_of_lt hroom]
      exact hlength

/-- Two lists, whose tasks begin and end in turn. -/
def interleaved : List TaskEvent :=
  [.create, .create, .register 0 "net" "listener" ⟨"t1"⟩, .spawn 1 "work" "scan" ⟨"t2"⟩,
    .register 0 "net" "pages" ⟨"t3"⟩, .complete 1, .drop 0, .metric (.setFlag "ready")]

/-- The second task of the first list is left, and three tasks were counted. -/
theorem tasks_follow_history_interleaved :
    let history := (start []).run interleaved
    history.tasks.length < 2 ^ 64 ∧
      (history.machine.tasks 0).live = [⟨2, "net", "pages", ⟨"t3"⟩⟩] ∧
      (history.machine.tasks 1).live = [] ∧
      history.machine.metrics.counter? Machine.tasksCreated = some 3 := by
  intro history
  have hroom : history.tasks.length < 2 ^ 64 := by decide +kernel
  have helsewhere : ∀ event ∈ interleaved, ¬event.CountsElsewhere := by
    rintro event hevent ⟨amount, rfl⟩
    simp [interleaved] at hevent
  obtain ⟨hlists, -, hcounter⟩ := tasks_follow_history [] interleaved hroom
  have hfirst : toldBy 0 history.tasks = [⟨2, "net", "pages", ⟨"t3"⟩⟩] := by decide +kernel
  have hsecond : toldBy 1 history.tasks = [] := by decide +kernel
  have hmade : history.machine.taskLists ≠ [] := by decide +kernel
  have hthree : UInt64.ofNat history.tasks.length = 3 := by decide +kernel
  exact ⟨hroom, (hlists 0).1.trans hfirst, (hlists 1).1.trans hsecond,
    ((hcounter helsewhere).1 hmade).trans (congrArg some hthree)⟩

end TaskHistory

end RoleDaemon

import RoleDaemon.Proofs.Net.Sockets
import RoleDaemon.Proofs.Service.Handle

/-!
# What a Daemon Holds

A service that runs on the network holds a listener and a live task, and so does the server of the
pages.  All listeners beside those of others, and all live tasks, are held by somebody, so that nothing
is left when nobody holds anything.

Main definitions:
- `Holding`: a listener and a live task
- `Accounted`: every listener and every live task is held

Main statements:
- `Accounted.acquire`, `Accounted.release`: a holding is added, or given back
- `Handle.OnNetwork.start`, `Handle.OnNetwork.wait`: what the operations of a handle do to the holdings
-/

namespace RoleDaemon

open Net

/-! ## §1 Holdings -/

/-- A listener and a live task. -/
structure Holding where
  listener : Endpoint
  task : TaskRef
  deriving DecidableEq, Repr

/-- What is given back when a holding ends. -/
def Machine.giveBack (machine : Machine) (holding : Holding) : Machine :=
  { machine with sockets := machine.sockets.close holding.listener }.finishTask holding.task

/-- Beside the endpoints that others listen on, every listener is held, and no holding is a listener of
    others.  There is one list of live tasks at most, and each live task is held. -/
structure Accounted (taken : List Endpoint) (held : List Holding) (machine : Machine) : Prop where
  sockets : ∃ opened, machine.sockets.listening = taken ++ opened ∧
    opened.Perm (held.map (·.listener))
  foreign : ∀ holding ∈ held, holding.listener ∉ taken
  lists : machine.taskLists.length ≤ 1
  tasks : ∀ tasks ∈ machine.taskLists, ∀ task ∈ tasks.live, ∃ holding ∈ held, holding.task.id = task.id
  places : ∀ holding ∈ held, holding.task.list = 0

namespace Accounted

variable {taken : List Endpoint} {held held' : List Holding} {machine machine' : Machine}

/-- The order of the holdings does not matter. -/
theorem perm (h : Accounted taken held machine) (hperm : held.Perm held') :
    Accounted taken held' machine := by
  obtain ⟨opened, hlistening, hopened⟩ := h.sockets
  refine ⟨⟨opened, hlistening, hopened.trans (hperm.map _)⟩, fun holding hheld => ?_, h.lists,
    fun tasks htasks task htask => ?_, fun holding hheld => ?_⟩
  · exact h.foreign holding (hperm.mem_iff.2 hheld)
  · obtain ⟨holding, hheld, heq⟩ := h.tasks tasks htasks task htask
    exact ⟨holding, hperm.mem_iff.1 hheld, heq⟩
  · exact h.places holding (hperm.mem_iff.2 hheld)

/-- Only the listeners and the live tasks of the process matter. -/
theorem congr (h : Accounted taken held machine) (hsockets : machine'.sockets = machine.sockets)
    (htasks : machine'.taskLists = machine.taskLists) : Accounted taken held machine' := by
  refine ⟨?_, h.foreign, ?_, ?_, h.places⟩
  · rw [hsockets]
    exact h.sockets
  · rw [htasks]
    exact h.lists
  · rw [htasks]
    exact h.tasks

/-- Ending the task of a holding ends it in the only list. -/
theorem mem_finishTask {holding : Holding} (h : Accounted taken (holding :: held) machine)
    {tasks : TaskRegistry} (htasks : tasks ∈ (machine.giveBack holding).taskLists) :
    ∃ others ∈ machine.taskLists, tasks = others.finish holding.task.id := by
  have hlists := h.lists
  simp only [Machine.giveBack, Machine.finishTask, h.places holding (List.mem_cons_self ..)] at htasks
  rcases hmachine : machine.taskLists with _ | ⟨only, _ | ⟨second, rest⟩⟩
  · rw [hmachine] at htasks
    cases htasks
  · rw [hmachine] at htasks
    exact ⟨only, List.mem_cons_self .., List.mem_singleton.1 htasks⟩
  · simp [hmachine] at hlists

/-- A task of a list is in the list. -/
theorem mem_tasks {list : Nat} {task : TaskInfo} (h : task ∈ (machine.tasks list).live) :
    ∃ tasks ∈ machine.taskLists, task ∈ tasks.live := by
  unfold Machine.tasks at h
  cases hlist : machine.taskLists[list]? with
  | none =>
    rw [hlist] at h
    cases h
  | some tasks =>
    rw [hlist] at h
    exact ⟨tasks, List.mem_of_getElem? hlist, h⟩

/-- When a holding is given back, the others stay. -/
theorem release {holding : Holding} (h : Accounted taken (holding :: held) machine) :
    Accounted taken held (machine.giveBack holding) := by
  obtain ⟨opened, hlistening, hopened⟩ := h.sockets
  obtain ⟨hclosed, hrest⟩ := Sockets.close_own hlistening hopened
    (h.foreign holding (List.mem_cons_self ..))
  refine ⟨⟨_, hclosed, hrest⟩, ?_, ?_, fun tasks htasks task htask => ?_, ?_⟩
  · exact fun other hother => h.foreign other (List.mem_cons_of_mem _ hother)
  · simpa [Machine.giveBack, Machine.finishTask] using h.lists
  · -- a task that is still live is not the one of the holding, so that another holds it
    obtain ⟨others, hothers, rfl⟩ : ∃ others ∈ machine.taskLists,
        tasks = others.finish holding.task.id := h.mem_finishTask htasks
    obtain ⟨hlive, hne⟩ := List.mem_filter.1 htask
    obtain ⟨other, hother, heq⟩ := h.tasks others hothers task hlive
    rcases List.mem_cons.1 hother with rfl | hrest
    · simp [heq] at hne
    · exact ⟨other, hrest, heq⟩
  · exact fun other hother => h.places other (List.mem_cons_of_mem _ hother)

/-- A new holding is added: a listener that was opened, and a task that was listed. -/
theorem acquire (h : Accounted taken held machine) {endpoint listener : Endpoint} {sockets : Sockets}
    (hlisten : machine.sockets.listen endpoint = .ok (listener, sockets)) (category name : String)
    (now : Timestamp) (hsockets : machine'.sockets = sockets)
    (htasks : machine'.taskLists =
      machine.taskLists.set 0 ((machine.tasks 0).start category name now).2) :
    Accounted taken (⟨listener, ⟨0, ((machine.tasks 0).start category name now).1⟩⟩ :: held)
      machine' := by
  obtain ⟨hfree, hopen⟩ := Sockets.listen_ok hlisten
  obtain ⟨opened, hlistening, hopened⟩ := h.sockets
  refine ⟨⟨opened ++ [listener], ?_, ?_⟩, fun holding hheld => ?_, ?_, fun tasks hmem task htask => ?_,
    fun holding hheld => ?_⟩
  · rw [hsockets, hopen, hlistening, List.append_assoc]
  · exact (List.perm_append_singleton listener opened).trans (hopened.cons listener)
  · -- the new listener stands where no other stood
    rcases List.mem_cons.1 hheld with rfl | hrest
    · intro hmem
      exact hfree (hlistening ▸ List.mem_append_left _ hmem)
    · exact h.foreign holding hrest
  · rw [htasks, List.length_set]
    exact h.lists
  · -- each live task was there before, or it is the new one
    rw [htasks] at hmem
    rcases List.mem_or_eq_of_mem_set hmem with hold | rfl
    · obtain ⟨holding, hheld, heq⟩ := h.tasks tasks hold task htask
      exact ⟨holding, List.mem_cons_of_mem _ hheld, heq⟩
    · rcases List.mem_append.1 htask with hlive | hnew
      · obtain ⟨tasks, htasks, hin⟩ := mem_tasks hlive
        obtain ⟨holding, hheld, heq⟩ := h.tasks tasks htasks task hin
        exact ⟨holding, List.mem_cons_of_mem _ hheld, heq⟩
      · rw [List.mem_singleton.1 hnew]
        exact ⟨_, List.mem_cons_self .., rfl⟩
  · rcases List.mem_cons.1 hheld with rfl | hrest
    · rfl
    · exact h.places holding hrest

/-- Nothing is left when nobody holds anything. -/
theorem of_nil (h : Accounted taken [] machine) :
    machine.sockets.listening = taken ∧ ∀ tasks ∈ machine.taskLists, tasks.live = [] := by
  obtain ⟨opened, hlistening, hopened⟩ := h.sockets
  constructor
  · rw [hlistening, hopened.eq_nil, List.append_nil]
  · intro tasks htasks
    apply List.eq_nil_iff_forall_not_mem.2
    intro task htask
    obtain ⟨holding, hheld, -⟩ := h.tasks tasks htasks task htask
    cases hheld

end Accounted

/-! ## §2 Services on the Network -/

namespace Handle

/-- What the service holds, as long as it runs. -/
def holding? (handle : Handle) : Option Holding :=
  match handle.phase with
  | .running ⟨_, some listener, some task⟩ => some ⟨listener, task⟩
  | _ => none

/-- The service was started, and may have ended since. -/
def hasStarted (handle : Handle) : Bool :=
  match handle.phase with
  | .running _ | .ended _ => true
  | _ => false

/-- A service that was started and does not run has ended. -/
theorem ended_of_hasStarted {handle : Handle} (hstarted : handle.hasStarted)
    (hrunning : handle.isRunning = false) : ∃ port, handle.phase = .ended port := by
  unfold hasStarted at hstarted
  unfold isRunning at hrunning
  cases hphase : handle.phase with
  | ended port => exact ⟨port, rfl⟩
  | running state => simp [hphase] at hrunning
  | idle => simp [hphase] at hstarted
  | refused => simp [hphase] at hstarted

/-- The service takes its calls on the network.  As long as it runs, it has a listener and a task and
    was not waited for, and its loop ends only for whoever waits for it. -/
structure OnNetwork (handle : Handle) : Prop where
  seat : ∃ endpoint, handle.binding.seat = .network endpoint
  running : ∀ state, handle.phase = .running state → handle.awaited = false ∧
    ∃ listener task, state = ⟨listener.port, some listener, some task⟩
  ended : ∀ port, handle.phase = .ended port → handle.awaited = true

variable {handle handle' : Handle} {machine machine' : Machine}

/-- A service that does not run holds nothing. -/
theorem holding?_eq_none (h : handle.isRunning = false) : handle.holding? = none := by
  unfold isRunning at h
  unfold holding?
  split
  · simp_all
  · rfl

namespace OnNetwork

theorem stop (h : handle.OnNetwork) : handle.stop.OnNetwork := ⟨h.seat, h.running, h.ended⟩

/-- A loop on the network breaks off nobody who waits for its service. -/
theorem verdict_ne_panicked (h : handle.OnNetwork) (task : Nat) (message : String) :
    handle.verdict ≠ .error (.panicked task message) := by
  obtain ⟨endpoint, hseat⟩ := h.seat
  unfold verdict outcome
  rw [hseat]
  split
  · simp
  · split <;> simp_all

/-- Whoever waits for a service finds it at its end, and what it held is given back. -/
theorem wait (h : handle.OnNetwork) {result : Except LoopFault Unit}
    (hwait : handle.wait machine = (handle', machine', some result)) :
    handle'.OnNetwork ∧ handle'.isRunning = false ∧ handle'.hasStarted = handle.hasStarted ∧
      handle'.stopRequested = handle.stopRequested ∧
      ∀ taken held, Accounted taken (handle.holding?.toList ++ held) machine →
        Accounted taken held machine' := by
  obtain ⟨hsettled, h'⟩ | ⟨-, state, hphase, ⟨-, h'⟩ | ⟨-, h'⟩⟩ | ⟨-, port, hphase, h'⟩ :=
    handle.wait_cases machine
  · -- nobody has to wait, so that the service does not run
    cases hwait.symm.trans h'
    have hrunning : handle.isRunning = false := by
      unfold isRunning
      split
      · rename_i state hphase
        simp [isSettled, (h.running state hphase).1, hphase] at hsettled
      · rfl
    refine ⟨h, hrunning, rfl, rfl, fun taken held haccounted => ?_⟩
    rwa [holding?_eq_none hrunning] at haccounted
  · cases hwait.symm.trans h'
  · -- the loop comes to its end here, and the service gives back what it holds
    cases hwait.symm.trans h'
    obtain ⟨-, listener, task, rfl⟩ := h.running state hphase
    refine ⟨⟨h.seat, by simp, fun _ _ => rfl⟩, rfl, by simp [hasStarted, hphase], rfl,
      fun taken held haccounted => ?_⟩
    have hholding : handle.holding? = some ⟨listener, task⟩ := by simp [holding?, hphase]
    rw [hholding] at haccounted
    exact haccounted.release
  · cases hwait.symm.trans h'
    have hrunning : handle.isRunning = false := by simp [isRunning, hphase]
    refine ⟨⟨h.seat, fun state hstate => (by cases hphase.symm.trans hstate), fun _ _ => rfl⟩, hrunning,
      rfl, rfl, fun taken held haccounted => ?_⟩
    rwa [holding?_eq_none hrunning] at haccounted

/-- The first start of a service on the network adds what it holds, or fails and adds nothing. -/
theorem start {role : Role} {binding : Binding} (h : (new role 0 binding).OnNetwork)
    {now : Timestamp} {result : Except Cause Unit}
    (hstart : (new role 0 binding).start now machine = (handle', machine', result)) :
    handle'.OnNetwork ∧ handle'.role = role ∧ (result = .ok () → handle'.hasStarted) ∧
      ∀ taken held, Accounted taken held machine →
        Accounted taken (handle'.holding?.toList ++ held) machine' := by
  obtain ⟨endpoint, hseat⟩ := h.seat
  have hseat : binding.seat = .network endpoint := hseat
  simp only [Handle.start, new, hseat, startNetwork] at hstart
  cases hlisten : machine.sockets.listen endpoint with
  | error fault =>
    rw [hlisten] at hstart
    cases hstart
    refine ⟨⟨⟨endpoint, hseat⟩, ?_, ?_⟩, rfl, ?_, fun _ _ haccounted => haccounted⟩
    · rintro state ⟨⟩
    · rintro port ⟨⟩
    · rintro ⟨⟩
  | ok opened =>
    obtain ⟨listener, sockets⟩ := opened
    rw [hlisten] at hstart
    cases hstart
    refine ⟨⟨⟨endpoint, hseat⟩, ?_, ?_⟩, rfl, fun _ => rfl, fun taken held haccounted => ?_⟩
    · rintro state ⟨rfl⟩
      exact ⟨rfl, _, _, rfl⟩
    · rintro port ⟨⟩
    · exact haccounted.acquire hlisten category role.name now rfl rfl

end OnNetwork

end Handle

end RoleDaemon

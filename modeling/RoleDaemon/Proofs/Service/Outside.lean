import RoleDaemon.Proofs.Service.Holdings
import RoleDaemon.Proofs.Task.Registry

/-!
# What Others Do

A service shares the process with others, who listen on endpoints and start and end tasks, at any time.
They leave what the service holds: the place of its listener stays taken by it alone, and its task stays
listed under its number, which nobody else gets.

Main definitions:
- `Outside`: what others do
- `Outside.change`: what they make of the process

Main statements:
- `Outside.holdsAlone_change`: the place of a listener that is held
- `Outside.withId_change`: what is listed under a number that was given
-/

namespace RoleDaemon

open Net

/-! ## §1 Changes -/

/-- What others do beside a service: they listen on endpoints and stop to do so, and they start tasks and
    end them. -/
inductive Outside where
  | listen (endpoint : Endpoint)
  | close (endpoint : Endpoint)
  | startTask (category name : String) (now : Timestamp)
  | finishTask (id : UInt64)

/-- What others make of the process.  They leave the listener and the task that a service holds, so that
    closing the one or ending the other is nothing that others do. -/
def Outside.change (held? : Option Holding) (tasks : Nat) (machine : Machine) : Outside → Machine
  | listen endpoint =>
    match machine.sockets.listen endpoint with
    | .ok (_, sockets) => { machine with sockets }
    | .error _ => machine
  | close endpoint =>
    if held?.any (·.listener == endpoint) then machine
    else { machine with sockets := machine.sockets.close endpoint }
  | startTask category name now => (machine.startTask tasks category name now).2
  | finishTask id =>
    if held?.any (·.task == ⟨tasks, id⟩) then machine else machine.finishTask ⟨tasks, id⟩

/-- A task is listed. -/
def Outside.listsTask : Outside → Bool
  | startTask .. => true
  | _ => false

namespace Outside

variable {tasks : Nat} {machine : Machine}

/-! ## §2 What is Left -/

/-- Others leave the place of a listener that is held. -/
theorem holdsAlone_change {holding : Holding} (change : Outside)
    (h : machine.sockets.HoldsAlone holding.listener) :
    (change.change (some holding) tasks machine).sockets.HoldsAlone holding.listener := by
  cases change with
  | listen endpoint =>
    simp only [Outside.change]
    split
    · rename_i hlisten
      exact h.listen hlisten
    · exact h
  | close endpoint =>
    simp only [Outside.change]
    split
    · exact h
    · rename_i hother
      exact h.close fun hsame => hother (by simp [hsame])
  | startTask category name now => exact h
  | finishTask id =>
    simp only [Outside.change]
    split <;> exact h

/-- Others leave the list of tasks as it is, or they list one more task, or they end one that is not
    held. -/
theorem tasks_change (change : Outside) (held? : Option Holding)
    (hlists : tasks < machine.taskLists.length) :
    tasks < (change.change held? tasks machine).taskLists.length ∧
    ((change.listsTask = false ∧
        (change.change held? tasks machine).tasks tasks = machine.tasks tasks) ∨
      (∃ category name now, change.listsTask = true ∧
        (change.change held? tasks machine).tasks tasks =
          ((machine.tasks tasks).start category name now).2) ∨
      ∃ id, change.listsTask = false ∧ ¬ held?.any (·.task == ⟨tasks, id⟩) ∧
        (change.change held? tasks machine).tasks tasks = (machine.tasks tasks).finish id) := by
  cases change with
  | listen endpoint =>
    simp only [Outside.change]
    split <;> exact ⟨hlists, .inl ⟨rfl, rfl⟩⟩
  | close endpoint =>
    simp only [Outside.change]
    split <;> exact ⟨hlists, .inl ⟨rfl, rfl⟩⟩
  | startTask category name now =>
    refine ⟨?_, .inr (.inl ⟨category, name, now, rfl, Machine.tasks_startTask hlists ..⟩)⟩
    simpa [Outside.change, Machine.startTask, Machine.increment] using hlists
  | finishTask id =>
    simp only [Outside.change]
    split
    · exact ⟨hlists, .inl ⟨rfl, rfl⟩⟩
    · rename_i hother
      refine ⟨?_, .inr (.inr ⟨id, rfl, hother, Machine.tasks_finishTask ..⟩)⟩
      simpa [Machine.finishTask] using hlists

variable {first : UInt64} {given : Nat} {held? : Option Holding} {id : UInt64}

/-- The tasks of others get numbers too. -/
theorem counts_change (change : Outside) (held? : Option Holding)
    (hlists : tasks < machine.taskLists.length) (h : (machine.tasks tasks).Counts first given)
    (hroom : change.listsTask → first.toNat + given < UInt64.size) :
    ((change.change held? tasks machine).tasks tasks).Counts first
      (given + change.listsTask.toNat) := by
  obtain ⟨hnone, htasks⟩ | ⟨category, name, now, hone, htasks⟩ | ⟨id, hnone, -, htasks⟩ :=
    (change.tasks_change held? hlists).2
  · rw [htasks, hnone]
    exact h
  · rw [htasks, hone]
    exact h.start (hroom hone) category name now
  · rw [htasks, hnone]
    exact h.finish id

/-- Others leave what is listed under a number that was given: the task that is held, or nothing. -/
theorem withId_change (change : Outside) (hlists : tasks < machine.taskLists.length)
    (h : (machine.tasks tasks).Counts first given)
    (hroom : change.listsTask → first.toNat + given < UInt64.size) (hid : id.toNat < first.toNat + given)
    (hkept : held?.any (·.task == ⟨tasks, id⟩) ∨ (machine.tasks tasks).withId id = []) :
    ((change.change held? tasks machine).tasks tasks).withId id =
      (machine.tasks tasks).withId id := by
  obtain ⟨-, htasks⟩ | ⟨category, name, now, hone, htasks⟩ | ⟨other, -, hother, htasks⟩ :=
    (change.tasks_change held? hlists).2
  · rw [htasks]
  · rw [htasks]
    exact h.withId_start (hroom hone) hid category name now
  · rw [htasks]
    by_cases hsame : other = id
    · subst hsame
      rw [TaskRegistry.withId_finish_self, hkept.resolve_left hother]
    · exact TaskRegistry.withId_finish hsame

end Outside

end RoleDaemon

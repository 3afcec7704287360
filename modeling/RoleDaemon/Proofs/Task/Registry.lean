import Mathlib.Data.List.Nodup
import RoleDaemon.Machine

/-!
# Numbers of Tasks

No number is given to two tasks, as long as the numbers last.  What is listed under a number is then the
task that got it, from its start to its end, whatever other tasks do.

Main definitions:
- `TaskRegistry.withId`: what is listed under a number
- `TaskRegistry.Counts`: how many numbers were given

Main statements:
- `TaskRegistry.Counts.withId_start_self`: a task is listed under its number
- `TaskRegistry.withId_finish_self`: until it ends
-/

namespace RoleDaemon

namespace TaskRegistry

/-- The live tasks with a number. -/
def withId (tasks : TaskRegistry) (id : UInt64) : List TaskInfo :=
  tasks.live.filter fun task => task.id == id

/-- From the number `first` on, `given` numbers were given, and the live tasks have some of these or
    smaller ones. -/
structure Counts (first : UInt64) (given : Nat) (tasks : TaskRegistry) : Prop where
  next : tasks.nextId = first + .ofNat given
  below : ∀ task ∈ tasks.live, task.id.toNat < first.toNat + given

variable {tasks : TaskRegistry} {first id other : UInt64} {given : Nat}

/-! ## §1 Numbers -/

namespace Counts

theorem toNat_nextId (h : Counts first given tasks) (hroom : first.toNat + given < UInt64.size) :
    tasks.nextId.toNat = first.toNat + given := by
  rw [h.next, UInt64.toNat_add, UInt64.toNat_ofNat', Nat.add_mod_mod]
  exact Nat.mod_eq_of_lt hroom

theorem start (h : Counts first given tasks) (hroom : first.toNat + given < UInt64.size)
    (category name : String) (now : Timestamp) :
    Counts first (given + 1) (tasks.start category name now).2 := by
  constructor
  · have hnext : tasks.nextId + 1 = first + .ofNat (given + 1) := by
      rw [h.next, UInt64.ofNat_add, UInt64.add_assoc]
      rfl
    exact hnext
  · intro task htask
    rcases List.mem_append.1 htask with hold | hnew
    · have hbelow := h.below task hold
      omega
    · rw [List.mem_singleton.1 hnew]
      have hnumber := h.toNat_nextId hroom
      simp only
      omega

theorem finish (h : Counts first given tasks) (id : UInt64) : Counts first given (tasks.finish id) :=
  ⟨h.next, fun task htask => h.below task (List.mem_filter.1 htask).1⟩

end Counts

/-! ## §2 Entries -/

/-- A task is the only one that is listed under its number. -/
theorem Counts.withId_start_self (h : Counts first given tasks) (hroom : first.toNat + given < UInt64.size)
    (category name : String) (now : Timestamp) :
    (tasks.start category name now).2.withId tasks.nextId =
      [⟨tasks.nextId, category, name, now⟩] := by
  have hnone : tasks.live.filter (fun task => task.id == tasks.nextId) = [] := by
    apply List.filter_eq_nil_iff.2
    intro task htask hsame
    have hbelow := h.below task htask
    rw [beq_iff_eq.1 hsame, h.toNat_nextId hroom] at hbelow
    exact Nat.lt_irrefl _ hbelow
  simp [withId, TaskRegistry.start, hnone]

/-- A new task leaves what is listed under numbers that were given before. -/
theorem Counts.withId_start (h : Counts first given tasks) (hroom : first.toNat + given < UInt64.size)
    (hid : id.toNat < first.toNat + given) (category name : String) (now : Timestamp) :
    (tasks.start category name now).2.withId id = tasks.withId id := by
  have hne : tasks.nextId ≠ id := by
    rintro rfl
    rw [h.toNat_nextId hroom] at hid
    exact Nat.lt_irrefl _ hid
  simp [withId, TaskRegistry.start, hne]

theorem withId_finish_self (tasks : TaskRegistry) (id : UInt64) :
    (tasks.finish id).withId id = [] := by
  simp [withId, finish, List.filter_filter]

theorem withId_finish (hne : other ≠ id) : (tasks.finish other).withId id = tasks.withId id := by
  have hkeep : ∀ task ∈ tasks.live, ((task.id == id) && (task.id != other)) = (task.id == id) := by
    intro task _
    by_cases hid : task.id = id
    · simp [hid, hne.symm]
    · simp [hid]
  simp only [withId, finish, List.filter_filter]
  exact List.filter_congr hkeep

/-- The end of a task removes it from between the others, where no two have the same number. -/
theorem live_finish {front back : List TaskInfo} {task : TaskInfo}
    (hlive : tasks.live = front ++ task :: back) (hnumbers : (tasks.live.map (·.id)).Nodup) :
    (tasks.finish task.id).live = front ++ back := by
  rw [hlive, List.map_append, List.map_cons, List.nodup_middle, List.nodup_cons,
    ← List.map_append] at hnumbers
  have hother : ∀ other ∈ front ++ back, (other.id != task.id) = true := by
    intro other hmem
    simp only [bne_iff_ne, ne_eq]
    exact fun hid => hnumbers.1 (hid ▸ List.mem_map_of_mem hmem)
  rw [finish, hlive, List.filter_append, List.filter_cons, bne_self_eq_false, if_neg (by simp),
    ← List.filter_append, List.filter_eq_self.2 hother]

end TaskRegistry

/-! ## §3 Lists of Tasks -/

namespace Machine

variable {machine : Machine} {list : Nat}

theorem tasks_startTask (h : list < machine.taskLists.length) (category name : String)
    (now : Timestamp) :
    (machine.startTask list category name now).2.tasks list =
      ((machine.tasks list).start category name now).2 := by
  simp [startTask, tasks, increment, h]

theorem tasks_finishTask (machine : Machine) (list : Nat) (id : UInt64) :
    (machine.finishTask ⟨list, id⟩).tasks list = (machine.tasks list).finish id := by
  unfold finishTask tasks
  rw [List.getElem?_modify_eq]
  cases machine.taskLists[list]? <;> rfl

/-- A new task is listed nowhere else. -/
theorem tasks_startTask_of_ne {other : Nat} (hother : other ≠ list) (category name : String)
    (now : Timestamp) :
    (machine.startTask list category name now).2.tasks other = machine.tasks other := by
  simp [startTask, tasks, increment, hother.symm]

/-- The end of a task is the end of it alone. -/
theorem tasks_finishTask_of_ne {other : Nat} (hother : other ≠ list) (id : UInt64) :
    (machine.finishTask ⟨list, id⟩).tasks other = machine.tasks other := by
  simp [finishTask, tasks, hother.symm]

end Machine

end RoleDaemon

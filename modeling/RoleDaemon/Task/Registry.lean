import RoleDaemon.Json.Value
import RoleDaemon.Timestamp

/-!
# Live Tasks

Each long-running task of the daemon is listed from its start to its end.  Tasks are numbered from 1
in the order of their starts, and no number is given twice.

Main definitions:
- `TaskRegistry`: the live tasks
- `TaskRegistry.start`: lists one more task
- `TaskRegistry.finish`: ends a task
-/

namespace RoleDaemon

/-- What is known about a task. -/
structure TaskInfo where
  id : UInt64
  category : String
  name : String
  startedAt : Timestamp
  deriving DecidableEq, Repr

/-- The live tasks in the order of their numbers, and the number of the next one. -/
structure TaskRegistry where
  nextId : UInt64
  live : List TaskInfo
  deriving DecidableEq, Repr

namespace TaskRegistry

/-- No task was started yet. -/
def empty : TaskRegistry := ⟨1, []⟩

/-- Lists one more task under the next number. -/
def start (tasks : TaskRegistry) (category name : String) (now : Timestamp) :
    UInt64 × TaskRegistry :=
  (tasks.nextId,
    { nextId := tasks.nextId + 1
      live := tasks.live ++ [⟨tasks.nextId, category, name, now⟩] })

/-- Ends a task. -/
def finish (tasks : TaskRegistry) (id : UInt64) : TaskRegistry :=
  { tasks with live := tasks.live.filter fun task => task.id != id }

/-- The number of live tasks. -/
def liveCount (tasks : TaskRegistry) : Nat := tasks.live.length

end TaskRegistry

/-- What is known about a task, as JSON. -/
def TaskInfo.toJson (task : TaskInfo) : Json :=
  .obj [("id", .nat task.id.toNat), ("category", .str task.category), ("name", .str task.name),
    ("started_at", .str task.startedAt.utc)]

/-- The live tasks and their number, as JSON. -/
def TaskRegistry.toJson (tasks : TaskRegistry) : Json :=
  .obj [("tasks", .arr (tasks.live.map TaskInfo.toJson)), ("count", .nat tasks.liveCount)]

end RoleDaemon

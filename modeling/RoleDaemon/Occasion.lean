import RoleDaemon.Metrics.Histogram
import RoleDaemon.Timestamp
import RoleDaemon.Uuid

/-!
# What a Request Takes from Outside

Time and chance are no part of the daemon's state.  Each request brings what it takes of them.

Main definitions:
- `Occasion`: the time of day, the measured time, and the fresh identifiers of one request
-/

namespace RoleDaemon

/-- What one request takes from outside. -/
structure Occasion where
  /-- The time of day. -/
  now : Timestamp
  /-- How many whole seconds ago the daemon was started. -/
  uptime : Int
  /-- How long the call takes. -/
  elapsed : Metrics.Duration
  /-- The identifiers drawn during the call, the first one first. -/
  drawn : Nat → Uuid

end RoleDaemon

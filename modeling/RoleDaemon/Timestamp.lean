/-!
# Moments of Time

The daemon writes moments as date and time in universal time, in one of two forms: with a letter for
the time zone, or with the offset of the zone.

Main definitions:
- `Timestamp`: a moment
- `Timestamp.utc`, `Timestamp.offset`: its two forms
-/

namespace RoleDaemon

/-- A moment, as the text of its date and time without a time zone. -/
structure Timestamp where
  text : String
  deriving DecidableEq, Repr, Inhabited

namespace Timestamp

/-- The form with the letter of universal time. -/
def utc (moment : Timestamp) : String := moment.text ++ "Z"

def offset (moment : Timestamp) : String := moment.text ++ "+00:00"

end Timestamp

end RoleDaemon

import RoleDaemon.Log.Event
import RoleDaemon.Text.Quoted

/-!
# Log Lines

An event is logged as its level, its target, its message and its fields.  Control characters of a
message that a terminal could act on are written by their number.

Main definitions:
- `Event.line`: the line of an event
-/

namespace RoleDaemon.Log

open Text

/-- A character of a message: those that a terminal could act on are written by their number. -/
def messageChar (c : Char) : List Char :=
  let n := c.toNat
  if n = 0x1B ∨ n = 7 ∨ n = 8 ∨ n = 12 ∨ n = 127 then '\\' :: 'x' :: padded 2 (hex n)
  else if 0x80 ≤ n ∧ n ≤ 0x9F then '\\' :: 'u' :: '\x7b' :: (hex n ++ ['\x7d'])
  else [c]

/-- The text of a field's value. -/
def Event.Value.shown : Event.Value → String
  | .bare text => text
  | .quoted text => Text.quoted text

def Event.line (event : Event) : String :=
  let message := String.ofList (event.message.toList.flatMap messageChar)
  event.fields.foldl (fun line field => line ++ " " ++ field.1 ++ "=" ++ field.2.shown)
    (event.level.name ++ " " ++ event.component.target ++ ": " ++ message)

end RoleDaemon.Log

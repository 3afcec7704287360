import RoleDaemon.Text.Digits
import RoleDaemon.Text.Printable

/-!
# Quoted Text

Text inside a message or a log line is put in double quotes, in a form that shows every character:
quotes and backslashes are escaped, the usual control characters have letters, and any other
character without a mark of its own is written by its number.

Main definitions:
- `quotedChar`: one character inside the quotes
- `quoted`: a text in quotes
-/

namespace RoleDaemon.Text

def quotedChar (c : Char) : List Char :=
  if c = '"' then ['\\', '"']
  else if c = '\\' then ['\\', '\\']
  else if c = '\n' then ['\\', 'n']
  else if c = '\r' then ['\\', 'r']
  else if c = '\t' then ['\\', 't']
  else if c.toNat = 0 then ['\\', '0']
  else if isPrintable c then [c]
  else '\\' :: 'u' :: '\x7b' :: (hex c.toNat ++ ['\x7d'])

def quoted (s : String) : String :=
  String.ofList ('"' :: (s.toList.flatMap quotedChar ++ ['"']))

end RoleDaemon.Text

import RoleDaemon.Text.Digits

/-!
# JSON Values and Their Text

The values that the daemon writes, and the compact text that it writes for them.

Main definitions:
- `Json`: the values, with the members of an object in the order of writing
- `Json.chars`: the text of a value
- `Json.Text.escape`: how a character is written inside a string
-/

namespace RoleDaemon

open Text

/-- A JSON value.  All numbers that the daemon writes are integers. -/
inductive Json where
  | null
  | bool (value : Bool)
  | int (value : Int)
  | str (value : String)
  | arr (elements : List Json)
  | obj (members : List (String × Json))
  deriving Repr, Inhabited

namespace Json

/-- The number of a natural number. -/
def nat (n : Nat) : Json := int n

/-- A value that may be absent, as `null` when it is. -/
def ofOption (value? : Option Json) : Json :=
  value?.getD null

/-! ## §1 Strings -/

/-- A character inside a string: quotes, backslashes and control characters are escaped, those with
    a short form by it, and all else stands for itself. -/
def escape (c : Char) : List Char :=
  if c = '"' then ['\\', '"']
  else if c = '\\' then ['\\', '\\']
  else if c.toNat = 8 then ['\\', 'b']
  else if c.toNat = 12 then ['\\', 'f']
  else if c = '\n' then ['\\', 'n']
  else if c = '\r' then ['\\', 'r']
  else if c = '\t' then ['\\', 't']
  else if c.toNat < 32 then '\\' :: 'u' :: padded 4 (hex c.toNat)
  else [c]

def quoted (s : String) : List Char :=
  '"' :: (s.toList.flatMap escape ++ ['"'])

/-! ## §2 Values -/

/-- An integer in decimal digits, with a sign when it is negative. -/
def intChars : Int → List Char
  | .ofNat n => decimal n
  | .negSucc n => '-' :: decimal (n + 1)

mutual

/-- The compact text of a value. -/
def chars : Json → List Char
  | null => "null".toList
  | bool true => "true".toList
  | bool false => "false".toList
  | int value => intChars value
  | str value => quoted value
  | arr elements => '[' :: (elementChars elements ++ [']'])
  | obj members => '{' :: (memberChars members ++ ['}'])

/-- Elements with commas between them. -/
def elementChars : List Json → List Char
  | [] => []
  | [v] => chars v
  | v :: rest => chars v ++ ',' :: elementChars rest

/-- Members with commas between them. -/
def memberChars : List (String × Json) → List Char
  | [] => []
  | [(key, v)] => quoted key ++ ':' :: chars v
  | (key, v) :: rest => quoted key ++ ':' :: (chars v ++ ',' :: memberChars rest)

end

def text (value : Json) : String :=
  String.ofList (chars value)

end Json

end RoleDaemon

/-!
# Names of Metrics

A metric has a name of its own within the daemon, with dots and hyphens, and a name under which it is
exported, which is restricted to letters, digits and underscores.

Main definitions:
- `exportName`: the exported form of a name
- `isValidName`: the names that an exported metric may have
-/

namespace RoleDaemon.Metrics

/-- Letters and digits of ASCII, and the underscore. -/
def isNameChar (c : Char) : Bool :=
  let n := c.toNat
  (48 ≤ n && n ≤ 57) || (65 ≤ n && n ≤ 90) || (97 ≤ n && n ≤ 122) || c == '_'

/-- The decimal digits of ASCII. -/
def isNameDigit (c : Char) : Bool :=
  48 ≤ c.toNat && c.toNat ≤ 57

/-- The exported form of a name: every character that may not stand in it becomes an underscore. -/
def exportName (name : String) : String :=
  String.ofList (name.toList.map fun c => if isNameChar c then c else '_')

/-- An exported name is not empty, starts with no digit, and holds letters, digits, underscores and
    colons only. -/
def isValidName (name : String) : Bool :=
  match name.toList with
  | [] => false
  | c :: cs => !isNameDigit c && (c :: cs).all fun c => isNameChar c || c == ':'

end RoleDaemon.Metrics

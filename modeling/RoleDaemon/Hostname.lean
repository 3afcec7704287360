import RoleDaemon.Net.Address
import RoleDaemon.Text.Blank

/-!
# Host Names

A daemon advertises itself under an address literal of either family, or under a host name: labels of
letters, digits and hyphens, joined by dots.

Main definitions:
- `Hostname.isLabel`: the label grammar
- `Hostname.check`: acceptance of a host name, with the cause of a refusal
-/

namespace RoleDaemon.Hostname

open Text

/-! ## §1 Grammar -/

/-- The characters a label is made of. -/
def isLabelChar (c : Char) : Bool :=
  let n := c.toNat
  (48 ≤ n && n ≤ 57) || (65 ≤ n && n ≤ 90) || (97 ≤ n && n ≤ 122) || c == '-'

/-- The number of bytes that the characters take in UTF-8. -/
def byteLength (cs : List Char) : Nat :=
  cs.foldl (fun n c => n + c.utf8Size) 0

/-- A label has 1 to 63 bytes, holds label characters only, and has no hyphen at either end. -/
def isLabel (cs : List Char) : Bool :=
  !cs.isEmpty && byteLength cs ≤ 63 && cs.head? != some '-' && cs.getLast? != some '-' &&
    cs.all isLabelChar

/-! ## §2 Acceptance -/

/-- Why a host name is refused. -/
inductive Fault where
  /-- There is no character. -/
  | empty
  /-- It takes more than 253 bytes. -/
  | tooLong (name : String)
  /-- Some part between dots is no label. -/
  | malformed (name : String)
  deriving DecidableEq, Repr

/-- The wording of a refusal. -/
def Fault.message : Fault → String
  | .empty => "hostname must not be empty"
  | .tooLong name => "hostname `" ++ name ++ "` is longer than 253 characters"
  | .malformed name => "hostname `" ++ name ++ "` is malformed"

/-- Accepts an address literal, or labels joined by dots in at most 253 bytes. -/
def check (name : String) : Except Fault Unit :=
  if (Net.Address.parse? name).isSome then .ok ()
  else if name.toList.isEmpty then .error .empty
  else if 253 < byteLength name.toList then .error (.tooLong name)
  else if (pieces '.' name.toList).all isLabel then .ok ()
  else .error (.malformed name)

end RoleDaemon.Hostname

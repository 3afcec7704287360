import RoleDaemon.Text.Blank
import RoleDaemon.Text.Digits

/-!
# Universally Unique Identifiers

Identifiers of 32 hexadecimal digits.  They are written in small letters in five groups with hyphens
between them, and are read in capital letters too, without the hyphens, in braces, or behind the name
of their scheme.

Main definitions:
- `Uuid`: an identifier
- `Uuid.text`: its written form
- `Uuid.parse`: reads an identifier, or tells what is wrong with the text
-/

namespace RoleDaemon

open Text

/-- An identifier of 32 hexadecimal digits. -/
structure Uuid where
  digits : List (Fin 16)
  size : digits.length = 32
  deriving DecidableEq, Repr

namespace Uuid

/-! ## §1 Writing -/

/-- The identifier with the digits of a number, the number taken modulo the number of
    identifiers. -/
def ofNat (n : Nat) : Uuid :=
  ⟨(List.range 32).map fun i => Fin.ofNat 16 (n / Nat.pow 16 (31 - i)), by simp⟩

def groupLengths : List Nat := [8, 4, 4, 4, 12]

/-- A digit in small letters. -/
def digitChar (d : Fin 16) : Char :=
  Char.ofNat (if d.val < 10 then 48 + d.val else 87 + d.val)

/-- Characters in groups of the given lengths, with hyphens between them. -/
def grouped : List Nat → List Char → List Char
  | [], cs => cs
  | [_], cs => cs
  | n :: lengths, cs => cs.take n ++ '-' :: grouped lengths (cs.drop n)

/-- The written form. -/
def chars (id : Uuid) : List Char :=
  grouped groupLengths (id.digits.map digitChar)

def text (id : Uuid) : String :=
  String.ofList id.chars

/-! ## §2 Reading -/

/-- The value of a hexadecimal digit in letters of either size. -/
def digit? (c : Char) : Option (Fin 16) :=
  (digitValue? 16 c).map (Fin.ofNat 16)

/-- The identifier whose digits are the given ones. -/
def ofDigits? (digits : List (Fin 16)) : Option Uuid :=
  if size : digits.length = 32 then some ⟨digits, size⟩ else none

/-- Characters without the hyphens between their groups, of which all but the last have a fixed
    length. -/
def ungrouped : List Nat → List Char → Option (List Char)
  | [], cs => some cs
  | [_], cs => some cs
  | n :: lengths, cs =>
    match cs.drop n with
    | '-' :: rest => (ungrouped lengths rest).map (cs.take n ++ ·)
    | _ => none

/-- The identifier that 32 digits spell. -/
def ofPlain? (cs : List Char) : Option Uuid :=
  (cs.mapM digit?).bind ofDigits?

/-- The identifier that five groups of digits spell. -/
def ofGrouped? (cs : List Char) : Option Uuid :=
  (ungrouped groupLengths cs).bind ofPlain?

/-- A capital letter of ASCII as a small one. -/
def lower (c : Char) : Char :=
  if 65 ≤ c.toNat ∧ c.toNat ≤ 90 then Char.ofNat (c.toNat + 32) else c

def scheme : List Char := "urn:uuid:".toList

/-- What is inside braces. -/
def inBraces? : List Char → Option (List Char)
  | '\x7b' :: rest => if rest.getLast? = some '\x7d' then some rest.dropLast else none
  | _ => none

/-- What is behind the name of the scheme. -/
def afterScheme? (cs : List Char) : Option (List Char) :=
  if (cs.take scheme.length).map lower = scheme then some (cs.drop scheme.length) else none

/-- The identifier that a text spells in one of the forms. -/
def read? (cs : List Char) : Option Uuid :=
  match inBraces? cs with
  | some inner => ofGrouped? inner
  | none =>
    match afterScheme? cs with
    | some rest => ofGrouped? rest
    | none => (ofPlain? cs).or (ofGrouped? cs)

/-! ## §3 Faults -/

/-- What is wrong with a text that spells no identifier. -/
inductive Fault where
  /-- A character is neither a digit nor a hyphen. -/
  | character (c : Char) (index : Nat)
  /-- There are no hyphens, and too few or too many digits. -/
  | length (n : Nat)
  /-- There are too few or too many groups. -/
  | groupCount (count : Nat)
  /-- A group has the wrong length. -/
  | groupLength (group expected n : Nat)
  deriving DecidableEq, Repr

/-- The wording of a fault. -/
def Fault.message : Fault → String
  | .character c index =>
    "invalid character: found `" ++ String.singleton c ++ "` at " ++ decimalText index
  | .length n => "invalid length: found " ++ decimalText n
  | .groupCount count => "invalid group count: expected 5, found " ++ decimalText count
  | .groupLength group expected n =>
    "invalid group length in group " ++ decimalText group ++ ": expected " ++
      decimalText expected ++ ", found " ++ decimalText n

/-- The first group of the wrong length; the last one where all others have the right length. -/
def groupFault : (index : Nat) → (lengths : List Nat) → (groups : List (List Char)) → Fault
  | index, [expected], [group] => .groupLength index expected group.length
  | index, expected :: lengths, group :: groups =>
    if group.length = expected then groupFault (index + 1) lengths groups
    else .groupLength index expected group.length
  | index, _, _ => .groupCount index

/-- What is wrong with a text that spells no identifier. -/
def faultOf (cs : List Char) : Fault :=
  let (offset, body) := match inBraces? cs with
    | some inner => (1, inner)
    | none =>
      match afterScheme? cs with
      | some rest => (scheme.length, rest)
      | none => (0, cs)
  match body.findIdx? fun c => !(c == '-' || (digit? c).isSome) with
  | some index => .character (body.getD index '-') (offset + index)
  | none =>
    let groups := pieces '-' body
    if groups.length = 1 ∧ offset = 0 ∧ cs.length ≠ 36 then .length cs.length
    else if groups.length = groupLengths.length then groupFault 0 groupLengths groups
    else .groupCount groups.length

/-- The identifier that the whole text spells. -/
def parse (s : String) : Except Fault Uuid :=
  match read? s.toList with
  | some id => .ok id
  | none => .error (faultOf s.toList)

end Uuid

end RoleDaemon

import RoleDaemon.Text.Digits

/-!
# Internet Addresses and Endpoints

Addresses of both families with their text forms.  Reading accepts every spelling of an address:
dotted decimals without leading zeros, and for the longer family groups of up to four hexadecimal
digits in either case, one run of zero groups left out as `::`, and a dotted address in place of the
last two groups.  Writing gives each address one spelling.

Main definitions:
- `IPv4`, `IPv6`, `Address`: the addresses
- `Address.parse?`: the address that a text spells
- `Address.text`: the one spelling that is written
- `Endpoint`: an address with a port
-/

namespace RoleDaemon.Net

open Text

/-! ## §1 Addresses -/

/-- An address of four octets. -/
structure IPv4 where
  a : UInt8
  b : UInt8
  c : UInt8
  d : UInt8
  deriving DecidableEq, Repr, Inhabited

/-- An address of eight 16-bit groups. -/
structure IPv6 where
  groups : List UInt16
  size : groups.length = 8
  deriving DecidableEq, Repr

/-- An address of either family. -/
inductive Address where
  | v4 (address : IPv4)
  | v6 (address : IPv6)
  deriving DecidableEq, Repr

/-- The address `0.0.0.0`, which stands for every local address. -/
def IPv4.unspecified : IPv4 := ⟨0, 0, 0, 0⟩

/-- The address that the groups make up, when there are eight of them. -/
def IPv6.ofGroups? (groups : List UInt16) : Option IPv6 :=
  if size : groups.length = 8 then some ⟨groups, size⟩ else none

/-- The two groups that hold the four octets. -/
def IPv4.groups (address : IPv4) : List UInt16 :=
  [address.a.toUInt16 * 256 + address.b.toUInt16, address.c.toUInt16 * 256 + address.d.toUInt16]

/-! ## §2 Reading -/

/-- An octet at the head of the text: one to three decimal digits without a leading zero, at most
    255. -/
def readOctet (cs : List Char) : Option (UInt8 × List Char) := do
  let (n, rest) ← readNumber 10 3 false cs
  if n < 256 then some (n.toUInt8, rest) else none

/-- A dotted address at the head of the text. -/
def IPv4.read (cs : List Char) : Option (IPv4 × List Char) := do
  let (a, cs) ← readOctet cs
  let (b, cs) ← (after? '.' cs).bind readOctet
  let (c, cs) ← (after? '.' cs).bind readOctet
  let (d, cs) ← (after? '.' cs).bind readOctet
  some (⟨a, b, c, d⟩, cs)

/-- Up to `room` groups separated by colons, and what follows them.  Where room for two groups is
    left, a dotted address may take it and ends the reading; the flag tells that one did.  `first`
    tells that no colon is due before the next group. -/
def readGroups : (room : Nat) → (first : Bool) → List Char → List UInt16 × Bool × List Char
  | 0, _, cs => ([], false, cs)
  | room + 1, first, cs =>
    let start := if first then some cs else after? ':' cs
    match (if room = 0 then none else start.bind IPv4.read) with
    | some (dotted, rest) => (dotted.groups, true, rest)
    | none =>
      match start.bind (readNumber 16 4 true) with
      | some (n, rest) =>
        let (groups, dotted, rest) := readGroups room false rest
        (n.toUInt16 :: groups, dotted, rest)
      | none => ([], false, cs)

/-- An address of eight groups at the head of the text.  Fewer groups need one `::`, which stands
    for at least one zero group, and no dotted address before it. -/
def IPv6.read (cs : List Char) : Option (IPv6 × List Char) :=
  let (head, dotted, rest) := readGroups 8 true cs
  if size : head.length = 8 then some (⟨head, size⟩, rest)
  else if dotted then none
  else do
    let rest ← (after? ':' rest).bind (after? ':')
    let (tail, _, rest) := readGroups (7 - head.length) true rest
    let zeros := List.replicate (8 - head.length - tail.length) 0
    let address ← IPv6.ofGroups? (head ++ zeros ++ tail)
    some (address, rest)

/-- The address that the whole text spells.  A dotted address at its head must be all of it. -/
def Address.parse? (s : String) : Option Address :=
  match IPv4.read s.toList with
  | some (address, rest) => if rest.isEmpty then some (.v4 address) else none
  | none =>
    match IPv6.read s.toList with
    | some (address, rest) => if rest.isEmpty then some (.v6 address) else none
    | none => none

/-! ## §3 Writing -/

/-- The dotted form. -/
def IPv4.chars (address : IPv4) : List Char :=
  decimal address.a.toNat ++ '.' :: (decimal address.b.toNat ++ '.' ::
    (decimal address.c.toNat ++ '.' :: decimal address.d.toNat))

/-- Groups in hexadecimal, separated by colons. -/
def groupChars (groups : List UInt16) : List Char :=
  List.intercalate [':'] (groups.map fun g => hex g.toNat)

/-- The number of zero groups from the given place on. -/
def zeroRun (groups : List UInt16) (start : Nat) : Nat :=
  ((groups.drop start).takeWhile (· == 0)).length

/-- The place of the longest run of zero groups, the first one among equals. -/
def longestZeroRun (groups : List UInt16) : Nat :=
  (List.range groups.length).foldl
    (fun best start => if zeroRun groups best < zeroRun groups start then start else best) 0

/-- The octets of the last two groups, when the groups before them mark an embedded address of four
    octets. -/
def IPv6.mapped? (address : IPv6) : Option IPv4 :=
  match address.groups with
  | [0, 0, 0, 0, 0, 0xFFFF, x, y] =>
    some ⟨(x / 256).toUInt8, x.toUInt8, (y / 256).toUInt8, y.toUInt8⟩
  | _ => none

/-- The written form: an embedded address of four octets is dotted, and otherwise the longest run of
    at least two zero groups is left out. -/
def IPv6.chars (address : IPv6) : List Char :=
  match address.mapped? with
  | some dotted => "::ffff:".toList ++ dotted.chars
  | none =>
    let start := longestZeroRun address.groups
    let length := zeroRun address.groups start
    if 1 < length then
      groupChars (address.groups.take start) ++ ':' :: ':' ::
        groupChars (address.groups.drop (start + length))
    else groupChars address.groups

/-- The written form of an address of either family. -/
def Address.chars : Address → List Char
  | .v4 address => address.chars
  | .v6 address => address.chars

def Address.text (address : Address) : String :=
  String.ofList address.chars

/-! ## §4 Endpoints -/

/-- An address and a port, where a listener can be. -/
structure Endpoint where
  address : Address
  port : UInt16
  deriving DecidableEq, Repr

/-- A host and a port, with brackets around a host that itself holds colons. -/
def hostPort (bracketed : Bool) (host : List Char) (port : UInt16) : List Char :=
  (if bracketed then '[' :: (host ++ [']']) else host) ++ ':' :: decimal port.toNat

/-- The address and the port with a colon between them. -/
def Endpoint.text (endpoint : Endpoint) : String :=
  String.ofList <| match endpoint.address with
    | .v4 address => hostPort false address.chars endpoint.port
    | .v6 address => hostPort true address.chars endpoint.port

/-- The port that the whole text spells in decimal digits. -/
def parsePort? (cs : List Char) : Option UInt16 :=
  match readNumber 10 5 true cs with
  | some (n, []) => if n < 65536 then some n.toUInt16 else none
  | _ => none

/-- The endpoint that the whole text spells. -/
def Endpoint.parse? (s : String) : Option Endpoint :=
  match IPv4.read s.toList with
  | some (address, rest) => do
    let port ← (after? ':' rest).bind parsePort?
    some ⟨.v4 address, port⟩
  | none => do
    let (address, rest) ← (after? '[' s.toList).bind IPv6.read
    let port ← ((after? ']' rest).bind (after? ':')).bind parsePort?
    some ⟨.v6 address, port⟩

end RoleDaemon.Net

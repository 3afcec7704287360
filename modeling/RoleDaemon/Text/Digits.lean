/-!
# Numbers in Positional Notation

Numbers are written with the decimal digits, or with the lower-case hexadecimal ones, and are read
back from a run of digits at the head of a text.

Main definitions:
- `digitValue?`: the value of a digit, either case
- `ofDigits`: the number that a run of digits denotes
- `decimal`, `hex`: the written forms
- `readNumber`: a number of bounded width at the head of a text
-/

namespace RoleDaemon.Text

/-! ## §1 Digits -/

/-- The value of an alphanumeric digit, upper or lower case, when it is below the radix. -/
def digitValue? (radix : Nat) (c : Char) : Option Nat :=
  let n := c.toNat
  let value? :=
    if 48 ≤ n ∧ n ≤ 57 then some (n - 48)
    else if 97 ≤ n ∧ n ≤ 122 then some (n - 87)
    else if 65 ≤ n ∧ n ≤ 90 then some (n - 55)
    else none
  value?.filter (· < radix)

/-- The character is a digit of the radix. -/
def isDigitOf (radix : Nat) (c : Char) : Bool :=
  (digitValue? radix c).isSome

/-- The number that the digits denote, most significant first; other characters count as zero. -/
def ofDigits (radix : Nat) (ds : List Char) : Nat :=
  ds.foldl (fun n c => n * radix + (digitValue? radix c).getD 0) 0

/-! ## §2 Writing -/

/-- The decimal digits of a number, without leading zeros. -/
def decimal (n : Nat) : List Char :=
  Nat.toDigits 10 n

/-- The lower-case hexadecimal digits of a number, without leading zeros. -/
def hex (n : Nat) : List Char :=
  Nat.toDigits 16 n

def decimalText (n : Nat) : String :=
  String.ofList (decimal n)

/-- The digits, filled up with leading zeros to the given width. -/
def padded (width : Nat) (ds : List Char) : List Char :=
  List.replicate (width - ds.length) '0' ++ ds

/-! ## §3 Reading -/

/-- The text after `c`, when it starts with `c`. -/
def after? (c : Char) : List Char → Option (List Char)
  | [] => none
  | d :: rest => if d = c then some rest else none

/-- A number of one to `width` digits at the head of the text, and what follows it.  The whole run
    of digits is taken, and a run that is too long is no number.  Without `leadingZeros`, a number of
    several digits does not start with a zero. -/
def readNumber (radix width : Nat) (leadingZeros : Bool) (cs : List Char) :
    Option (Nat × List Char) :=
  let ds := cs.takeWhile (isDigitOf radix)
  if ds.isEmpty || width < ds.length || (!leadingZeros && ds.head? == some '0' && 1 < ds.length)
  then none
  else some (ofDigits radix ds, cs.dropWhile (isDigitOf radix))

end RoleDaemon.Text

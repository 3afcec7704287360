import RoleDaemon.Number.Binary64
import RoleDaemon.Text.Digits

/-!
# Shortest Decimal Text

A double precision number is written with the fewest decimal digits that still read back as the same
number, and among those with the digits nearest to it.  For each count of digits there are two
candidates, the neighbours of the number on the grid of decimals with that many digits.

Main definitions:
- `Decimal`: digits with the place of the point
- `Binary64.shortest?`: the shortest decimal that reads back
- `Decimal.positional`: the text without an exponent
- `Decimal.scientific`: the text that leaves very large and very small numbers to an exponent
-/

namespace RoleDaemon

open Text

/-- The decimal fraction `0.d₁d₂… · 10 ^ point`. -/
structure Decimal where
  digits : List Char
  point : Int
  deriving DecidableEq, Repr

namespace Binary64

/-! ## §1 Digits -/

/-- The place of the point of the fraction `num / den`: the count of digits before the point, or for
    a fraction below one, minus the count of zeros that follow the point.  `fuel` bounds the zeros
    that are looked for. -/
def pointOf (num den : Nat) : (fuel : Nat) → Int
  | 0 => 0
  | fuel + 1 => if den ≤ num then (decimal (num / den)).length else pointOf (num * 10) den fuel - 1

/-- The multiple of `grid` that is nearest to `value` among those between `low` and `high`, where only
    the two multiples next to `value` are looked at.  The ends themselves count when `closed`. -/
def nearestMultiple? (grid low value high : Nat) (closed : Bool) : Option Nat :=
  let down := value / grid
  let up := down + 1
  let downFits := if closed then low ≤ down * grid else low < down * grid
  let upFits := if closed then up * grid ≤ high else up * grid < high
  if downFits && upFits then
    let toDown := value - down * grid
    let toUp := up * grid - value
    if toDown < toUp then some down
    else if toUp < toDown then some up
    else if down % 2 = 0 then some down else some up
  else if downFits then some down
  else if upFits then some up
  else none

/-- `10 ^ place` as a fraction. -/
def powerOfTen : (place : Int) → Nat × Nat
  | .ofNat n => (Nat.pow 10 n, 1)
  | .negSucc n => (1, Nat.pow 10 (n + 1))

/-- The decimal with the fewest digits between `low / den` and `high / den`, from `count` digits on,
    as an integer and the place of its last digit.  `fuel` bounds the counts tried. -/
def fewestDigits? (low value high den : Nat) (closed : Bool) (point : Int) (count : Nat) :
    (fuel : Nat) → Option (Nat × Int)
  | 0 => none
  | fuel + 1 =>
    let place := point - count
    let (num, scale) := powerOfTen place
    match nearestMultiple? (num * den) (low * scale) (value * scale) (high * scale) closed with
    | some digits => some (digits, place)
    | none => fewestDigits? low value high den closed point (count + 1) fuel

/-- The shortest decimal that reads back as the number, the nearest one where there are several; none
    for the infinite number.  The numbers that round to `mantissa · 2 ^ exponent` reach half of the
    last place to both sides, or a quarter of it downward from a power of two; the ends round to it
    when the mantissa is even. -/
def shortest? : Binary64 → Option Decimal
  | infinite => none
  | finite mantissa exponent =>
    if mantissa = 0 then some ⟨['0'], 1⟩
    else
      let (unit, den) := ratio 1 (exponent - 2)
      let below := if mantissa = Nat.pow 2 52 ∧ minExponent < exponent then 1 else 2
      let value := 4 * mantissa * unit
      let low := (4 * mantissa - below) * unit
      let high := (4 * mantissa + 2) * unit
      let found? :=
        fewestDigits? low value high den (mantissa % 2 = 0) (pointOf value den 400) 1 17
      found?.map fun (n, place) =>
        let ds := decimal n
        ⟨(ds.reverse.dropWhile (· = '0')).reverse, place + ds.length⟩

end Binary64

/-! ## §2 Notations -/

namespace Decimal

/-- The digits with the point among them, filled up with zeros up to the point, and no point when
    nothing follows it. -/
def positional (d : Decimal) : List Char :=
  if d.point ≤ 0 then '0' :: '.' :: (List.replicate d.point.natAbs '0' ++ d.digits)
  else if d.digits.length ≤ d.point.toNat then
    d.digits ++ List.replicate (d.point.toNat - d.digits.length) '0'
  else d.digits.take d.point.toNat ++ '.' :: d.digits.drop d.point.toNat

/-- The number has no digit behind the point. -/
def isWhole (d : Decimal) : Bool :=
  d.digits.length ≤ d.point

/-- One digit before the point, the exponent with its sign and at least two digits. -/
def withExponent (d : Decimal) : List Char :=
  let exponent := d.point - 1
  let fraction := d.digits.drop 1
  d.digits.take 1 ++ (if fraction.isEmpty then [] else '.' :: fraction) ++
    'e' :: (if exponent < 0 then '-' else '+') :: padded 2 (decimal exponent.natAbs)

/-- Numbers from `0.00001` up to below `10 ^ 16` without an exponent, whole ones with `.0`; all others
    with an exponent. -/
def scientific (d : Decimal) : List Char :=
  if d.digits = ['0'] then ['0', '.', '0']
  else if -4 ≤ d.point ∧ d.point ≤ 16 then
    if d.isWhole then d.positional ++ ['.', '0'] else d.positional
  else d.withExponent

end Decimal

namespace Binary64

/-- The text of a number without an exponent, whatever its size. -/
def positional (x : Binary64) : List Char :=
  match x.shortest? with
  | some d => d.positional
  | none => "inf".toList

/-- The text of a number, with an exponent where it is very large or very small. -/
def scientific (x : Binary64) : List Char :=
  match x.shortest? with
  | some d => d.scientific
  | none => "inf".toList

end Binary64

end RoleDaemon

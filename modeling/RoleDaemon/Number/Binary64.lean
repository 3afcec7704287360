/-!
# Double Precision Numbers

Latencies are summed, and JSON numbers with a fraction are read, in the binary format of 64 bits.
Only numbers that are not negative are needed.  Each operation is the exact one on fractions,
followed by one rounding to the nearest number of the format, ties to the even mantissa.

Main definitions:
- `Binary64`: the numbers of the format
- `Binary64.ofRatio`: the nearest number to a fraction
- `Binary64.add`, `mul`, `div`: the rounded operations
- `Binary64.roundToUInt64`: the nearest integer, halves upward, kept within 64 bits
-/

namespace RoleDaemon

/-- A double precision number that is not negative: `mantissa · 2 ^ exponent`, or infinite. -/
inductive Binary64 where
  | finite (mantissa : Nat) (exponent : Int)
  | infinite
  deriving DecidableEq, Repr, Inhabited

namespace Binary64

/-! ## §1 Rounding -/

/-- The exponent of the numbers closest to zero. -/
def minExponent : Int := -1074

/-- The exponent of the largest finite numbers. -/
def maxExponent : Int := 971

/-- `num / den` divided by `2 ^ exponent`, as a fraction. -/
def scaled (num den : Nat) (exponent : Int) : Nat × Nat :=
  match exponent with
  | .ofNat n => (num, den <<< n)
  | .negSucc n => (num <<< (n + 1), den)

/-- The exponent at which the fraction has a mantissa of 53 bits, or the least exponent where it
    has none. -/
def exponentOf (num den : Nat) : Int :=
  let guess : Int := (num.log2 : Int) - (den.log2 : Int) - 52
  let (n, d) := scaled num den guess
  max minExponent (if n < d <<< 52 then guess - 1 else guess)

/-- The quotient rounded to the nearest integer, a half to the even one. -/
def roundHalfEven (num den : Nat) : Nat :=
  let q := num / den
  let twice := 2 * (num % den)
  if twice < den then q
  else if den < twice then q + 1
  else if q % 2 = 0 then q else q + 1

/-- The number of the format that is nearest to the fraction. -/
def ofRatio (num den : Nat) : Binary64 :=
  if num = 0 then finite 0 minExponent
  else
    let e := exponentOf num den
    let (n, d) := scaled num den e
    let m := roundHalfEven n d
    let (m, e) := if m = Nat.pow 2 53 then (Nat.pow 2 52, e + 1) else (m, e)
    if maxExponent < e then infinite else finite m e

def zero : Binary64 := finite 0 minExponent

/-- The number of the format that is nearest to a natural number. -/
def ofNat (n : Nat) : Binary64 := ofRatio n 1

/-! ## §2 Operations -/

/-- A finite number as a fraction. -/
def ratio (mantissa : Nat) : Int → Nat × Nat
  | .ofNat n => (mantissa <<< n, 1)
  | .negSucc n => (mantissa, 1 <<< (n + 1))

/-- The rounded sum. -/
def add : Binary64 → Binary64 → Binary64
  | finite m e, finite m' e' =>
    let (a, b) := ratio m e
    let (c, d) := ratio m' e'
    ofRatio (a * d + c * b) (b * d)
  | _, _ => infinite

/-- The rounded product; an infinite factor makes it infinite. -/
def mul : Binary64 → Binary64 → Binary64
  | finite m e, finite m' e' =>
    let (a, b) := ratio m e
    let (c, d) := ratio m' e'
    ofRatio (a * c) (b * d)
  | _, _ => infinite

/-- The rounded quotient of a number and a positive finite number. -/
def div : Binary64 → Binary64 → Binary64
  | finite m e, finite m' e' =>
    let (a, b) := ratio m e
    let (c, d) := ratio m' e'
    ofRatio (a * d) (b * c)
  | finite _ _, infinite => zero
  | infinite, _ => infinite

/-- The comparison of two numbers. -/
def le : Binary64 → Binary64 → Bool
  | finite m e, finite m' e' =>
    let (a, b) := ratio m e
    let (c, d) := ratio m' e'
    a * d ≤ c * b
  | finite _ _, infinite => true
  | infinite, finite _ _ => false
  | infinite, infinite => true

/-- The number is zero. -/
def isZero : Binary64 → Bool
  | finite m _ => m = 0
  | infinite => false

/-- The nearest integer, halves upward; numbers beyond 64 bits become the largest of 64 bits. -/
def roundToUInt64 : Binary64 → UInt64
  | finite m e =>
    let (a, b) := ratio m e
    (min ((2 * a + b) / (2 * b)) (UInt64.size - 1)).toUInt64
  | infinite => (UInt64.size - 1).toUInt64

end Binary64

end RoleDaemon

import Mathlib.Data.List.TakeWhile
import Mathlib.Data.List.Basic
import Mathlib.Tactic.Ring
import RoleDaemon.Number.Shortest

/-!
# The Text of Numbers

Numbers are written with the fewest digits that read back.  A whole number below `2 ^ 53` is a number of
the format, and then the fewest digits are its own digits without the zeros at their end, which the
notation without an exponent puts back.

## Architecture

- `Binary64.ofNat_eq`: a whole number below `2 ^ 53` is represented as it is
- `Binary64.nearestMultiple?_whole`: no other decimal with as few digits is close enough to it
- `Binary64.fewestDigits?_whole`: hence only zeros at the end are left out
- `Binary64.positional_strip`: and the notation puts them back

Main statements:
- `Binary64.positional_ofNat`: the text of a whole number below `2 ^ 53` is its decimal digits
- `Binary64.mem_positional`: the characters that a number is written with
-/

namespace RoleDaemon

open Text

/-! ## §1 Decimal Digits -/

/-- A factor of ten is one more zero behind. -/
theorem decimal_mul_ten {n : Nat} (hn : 0 < n) : decimal (10 * n) = decimal n ++ ['0'] :=
  (Nat.toDigits_append_toDigits (by decide) hn (by decide : 0 < 10)).symm

theorem decimal_mul_pow {n : Nat} (hn : 0 < n) (places : Nat) :
    decimal (n * 10 ^ places) = decimal n ++ List.replicate places '0' := by
  induction places with
  | zero => simp
  | succ places ih =>
    have hpos : 0 < n * 10 ^ places := Nat.mul_pos hn (Nat.pow_pos (by decide))
    rw [Nat.pow_succ', Nat.mul_left_comm, decimal_mul_ten hpos, ih, List.append_assoc,
      List.replicate_succ']

/-- The digits without the zeros at their end. -/
theorem strip_append_replicate (digits : List Char) :
    ∃ zeros, digits = (digits.reverse.dropWhile (· = '0')).reverse ++ List.replicate zeros '0' := by
  refine ⟨(digits.reverse.takeWhile (· = '0')).length, ?_⟩
  have hzeros : (digits.reverse.takeWhile (· = '0')).reverse =
      List.replicate (digits.reverse.takeWhile (· = '0')).length '0' := by
    apply List.eq_replicate_iff.2
    refine ⟨List.length_reverse, fun c hc => ?_⟩
    simpa using List.mem_takeWhile_imp (List.mem_reverse.1 hc)
  rw [← hzeros, ← List.reverse_append, List.takeWhile_append_dropWhile, List.reverse_reverse]

namespace Binary64

/-! ## §2 Whole Numbers in the Format -/

theorem scaled_neg (num den places : Nat) :
    scaled num den (-(places : Int)) = (num * 2 ^ places, den) := by
  cases places with
  | zero => simp [scaled]
  | succ places =>
    change (num <<< (places + 1), den) = _
    rw [Nat.shiftLeft_eq]

theorem ratio_neg (mantissa places : Nat) :
    ratio mantissa (-(places : Int)) = (mantissa, 2 ^ places) := by
  cases places with
  | zero => simp [ratio]
  | succ places =>
    change (mantissa, 1 <<< (places + 1)) = _
    rw [Nat.one_shiftLeft]

/-- By how many places a number below `2 ^ 53` is shifted to fill the mantissa. -/
def shift (n : Nat) : Nat := 52 - n.log2

theorem shift_bounds {n : Nat} (hn : 0 < n) (hsmall : n < 2 ^ 53) :
    2 ^ 52 ≤ n * 2 ^ shift n ∧ n * 2 ^ shift n < 2 ^ 53 ∧ n.log2 + shift n = 52 := by
  have hlog : n.log2 < 53 := (Nat.log2_lt hn.ne').2 hsmall
  have hsum : n.log2 + shift n = 52 := by
    unfold shift
    omega
  refine ⟨?_, ?_, hsum⟩
  · calc 2 ^ 52 = 2 ^ n.log2 * 2 ^ shift n := by rw [← Nat.pow_add, hsum]
      _ ≤ n * 2 ^ shift n := Nat.mul_le_mul_right _ (Nat.log2_self_le hn.ne')
  · calc n * 2 ^ shift n < 2 ^ (n.log2 + 1) * 2 ^ shift n :=
          Nat.mul_lt_mul_of_pos_right Nat.lt_log2_self (Nat.pow_pos (by decide))
      _ = 2 ^ 53 := by rw [← Nat.pow_add, Nat.add_right_comm, hsum]

/-- A whole number below `2 ^ 53` is represented as it is. -/
theorem ofNat_eq {n : Nat} (hn : 0 < n) (hsmall : n < 2 ^ 53) :
    ofNat n = finite (n * 2 ^ shift n) (-(shift n : Int)) := by
  obtain ⟨hlow, hhigh, hsum⟩ := shift_bounds hn hsmall
  -- the first guess of the exponent fills the mantissa, and stays
  have hguess : (n.log2 : Int) - ((1 : Nat).log2 : Int) - 52 = -(shift n : Int) := by
    have hone : (1 : Nat).log2 = 0 := rfl
    omega
  have hexponent : exponentOf n 1 = -(shift n : Int) := by
    have hfull : ¬ n * 2 ^ shift n < 1 <<< 52 := by
      rw [Nat.one_shiftLeft]
      omega
    unfold exponentOf
    simp only [hguess, scaled_neg, if_neg hfull, minExponent]
    omega
  -- and nothing is left to round
  have hround : roundHalfEven (n * 2 ^ shift n) 1 = n * 2 ^ shift n := by
    simp [roundHalfEven, Nat.mod_one]
  have hfits : ¬ n * 2 ^ shift n = Nat.pow 2 53 := by
    change ¬ n * 2 ^ shift n = 2 ^ 53
    omega
  unfold ofNat ofRatio
  simp only [if_neg hn.ne', hexponent, scaled_neg, hround, if_neg hfits, maxExponent]
  rw [if_neg (by omega)]

/-! ## §3 The Shortest Text -/

/-- The multiple below the value is the only one within the bounds. -/
theorem nearestMultiple?_eq_down {grid low value high : Nat} (closed : Bool)
    (hdown : low < value / grid * grid) (hup : high < (value / grid + 1) * grid) :
    nearestMultiple? grid low value high closed = some (value / grid) := by
  cases closed with
  | false => simp [nearestMultiple?, hdown, hup.le]
  | true => simp [nearestMultiple?, hdown.le, hup]

/-- No multiple is within the bounds. -/
theorem nearestMultiple?_eq_none {grid low value high : Nat} (closed : Bool)
    (hdown : value / grid * grid < low) (hup : high < (value / grid + 1) * grid) :
    nearestMultiple? grid low value high closed = none := by
  cases closed with
  | false => simp [nearestMultiple?, not_lt.2 hdown.le, not_lt.2 hup.le]
  | true => simp [nearestMultiple?, not_le.2 hdown, not_le.2 hup]

/-- Close to a multiple of `den`, a multiple of a coarser grid is found just when the number itself is
    one. -/
theorem nearestMultiple?_whole {n den below power : Nat} (hden : 4 ≤ den) (hn : 0 < n)
    (hbelow : below = 1 ∨ below = 2) (hpower : 0 < power) (closed : Bool) :
    nearestMultiple? (power * den) (n * den - below) (n * den) (n * den + 2) closed =
      if n % power = 0 then some (n / power) else none := by
  have hdown : n * den / (power * den) = n / power := Nat.mul_div_mul_right _ _ (by omega)
  -- the two multiples next to the number, and how far it is from them
  have hvalue : n * den = n / power * (power * den) + n % power * den := by
    calc n * den = (power * (n / power) + n % power) * den := by rw [Nat.div_add_mod]
      _ = n / power * (power * den) + n % power * den := by ring
  have hup : (n / power + 1) * (power * den) = n * den + (power - n % power) * den := by
    have hsplit : power * den = n % power * den + (power - n % power) * den := by
      rw [← Nat.add_mul, Nat.add_sub_cancel' (Nat.mod_lt n hpower).le]
    rw [hvalue, Nat.add_one_mul, Nat.add_assoc, ← hsplit]
  have hupFar : 4 ≤ (power - n % power) * den :=
    le_trans hden (Nat.le_mul_of_pos_left den (Nat.sub_pos_of_lt (Nat.mod_lt n hpower)))
  have hpos : 4 ≤ n * den := le_trans hden (Nat.le_mul_of_pos_left den hn)
  split
  · rename_i hmod
    rw [hmod, Nat.zero_mul, Nat.add_zero] at hvalue
    rw [← hdown]
    apply nearestMultiple?_eq_down
    · rw [hdown, ← hvalue]
      omega
    · rw [hdown, hup]
      omega
  · rename_i hmod
    have hdownFar : 4 ≤ n % power * den :=
      le_trans hden (Nat.le_mul_of_pos_left den (Nat.pos_of_ne_zero hmod))
    apply nearestMultiple?_eq_none
    · rw [hdown]
      omega
    · rw [hdown, hup]
      omega

theorem powerOfTen_natCast (place : Nat) : powerOfTen (place : Int) = (10 ^ place, 1) := rfl

/-- The decimal with the fewest digits is the number without some of the zeros at its end. -/
theorem fewestDigits?_whole {n den below length : Nat} (hden : 4 ≤ den) (hn : 0 < n)
    (hbelow : below = 1 ∨ below = 2) (closed : Bool) {count fuel : Nat} (hcount : count ≤ length)
    (hfuel : length < count + fuel) :
    ∃ place : Nat, n % 10 ^ place = 0 ∧
      fewestDigits? (n * den - below) (n * den) (n * den + 2) den closed length count fuel =
        some (n / 10 ^ place, (place : Int)) := by
  induction fuel generalizing count with
  | zero => omega
  | succ fuel ih =>
    have hplace : (length : Int) - count = ((length - count : Nat) : Int) := by omega
    unfold fewestDigits?
    simp only [hplace, powerOfTen_natCast, Nat.mul_one,
      nearestMultiple?_whole hden hn hbelow (Nat.pow_pos (by decide : 0 < 10))]
    by_cases hmod : n % 10 ^ (length - count) = 0
    · exact ⟨length - count, hmod, by rw [if_pos hmod]⟩
    · rw [if_neg hmod]
      -- with all digits up to the point the number is found at the latest
      have hmore : count ≠ length := by
        rintro rfl
        simp [Nat.mod_one] at hmod
      exact ih (by omega) (by omega)

theorem pointOf_whole {n den : Nat} (hden : 0 < den) (hn : 0 < n) (fuel : Nat) :
    pointOf (n * den) den (fuel + 1) = ((decimal n).length : Int) := by
  unfold pointOf
  rw [if_pos (Nat.le_mul_of_pos_left den hn), Nat.mul_div_cancel n hden]

/-- The digits of a number without the zeros at their end, and with the place of the point, are written
    out in full. -/
theorem positional_strip {n : Nat} (hn : 0 < n) (place : Nat) :
    Decimal.positional ⟨((decimal n).reverse.dropWhile (· = '0')).reverse,
      (place : Int) + (decimal n).length⟩ = decimal (n * 10 ^ place) := by
  rw [decimal_mul_pow hn]
  obtain ⟨zeros, hzeros⟩ := strip_append_replicate (decimal n)
  generalize ((decimal n).reverse.dropWhile (· = '0')).reverse = stripped at hzeros ⊢
  have hlength : (decimal n).length = stripped.length + zeros := by
    rw [hzeros, List.length_append, List.length_replicate]
  have hnonempty : 0 < (decimal n).length := Nat.length_toDigits_pos
  unfold Decimal.positional
  have hpoint : ((place : Int) + ((decimal n).length : Int)).toNat = place + (decimal n).length := by
    omega
  simp only [hpoint]
  rw [if_neg (by omega), if_pos (by omega)]
  have hfill : place + (decimal n).length - stripped.length = zeros + place := by omega
  rw [hfill, List.replicate_add, ← List.append_assoc, ← hzeros]

/-- The text of a whole number below `2 ^ 53` is its decimal digits. -/
theorem positional_ofNat {n : Nat} (hsmall : n < 2 ^ 53) : (ofNat n).positional = decimal n := by
  obtain rfl | hn := Nat.eq_zero_or_pos n
  · rfl
  obtain ⟨hlow, hhigh, hsum⟩ := shift_bounds hn hsmall
  have hlength : (decimal n).length ≤ 16 :=
    (Nat.length_toDigits_le_iff (by decide) (by decide)).2 (lt_trans hsmall (by decide))
  have hpow : 2 ^ (shift n + 2) = 4 * 2 ^ shift n := by ring
  have hden : 4 ≤ 2 ^ (shift n + 2) := by
    have := Nat.pow_pos (n := shift n) (by decide : 0 < 2)
    omega
  have hvalue : 4 * (n * 2 ^ shift n) = n * 2 ^ (shift n + 2) := by
    rw [hpow]
    ring
  have hpos : 1 ≤ (decimal n).length := Nat.length_toDigits_pos
  have hexponent : -(shift n : Int) - 2 = -((shift n + 2 : Nat) : Int) := by omega
  -- the interval of a power of two is narrower below, which makes no difference here
  have hbelow : ∀ (power : Prop) [Decidable power],
      (if power then 1 else 2) = 1 ∨ (if power then 1 else 2) = 2 := by
    intro power _
    exact (ite_eq_or_eq power 1 2)
  unfold positional shortest?
  rw [ofNat_eq hn hsmall]
  simp only [hexponent, ratio_neg, Nat.mul_one, hvalue, pointOf_whole (Nat.lt_of_lt_of_le (by decide) hden) hn]
  rw [if_neg (by omega)]
  -- the shortest decimal leaves out `place` zeros, and the notation puts them back
  obtain ⟨place, hmod, hfewest⟩ := fewestDigits?_whole hden hn
    (hbelow (n * 2 ^ shift n = Nat.pow 2 52 ∧ minExponent < -(shift n : Int)))
    (decide (n * 2 ^ shift n % 2 = 0)) hpos (by omega : (decimal n).length < 1 + 17)
  rw [hfewest]
  simp only [Option.map_some]
  rw [positional_strip]
  · rw [Nat.div_mul_cancel (Nat.dvd_of_mod_eq_zero hmod)]
  · exact Nat.div_pos (Nat.le_of_dvd hn (Nat.dvd_of_mod_eq_zero hmod)) (Nat.pow_pos (by decide))

/-! ## §4 Characters -/

theorem isDigit_of_mem_digits {x : Binary64} {d : Decimal} (h : x.shortest? = some d) {c : Char}
    (hc : c ∈ d.digits) : c.isDigit := by
  cases x with
  | infinite => simp [shortest?] at h
  | finite mantissa exponent =>
    simp only [shortest?] at h
    split at h
    · obtain rfl := Option.some.inj h
      obtain rfl := List.mem_singleton.1 hc
      rfl
    · obtain ⟨⟨n, place⟩, -, rfl⟩ := Option.map_eq_some_iff.1 h
      have hmem : c ∈ decimal n :=
        List.mem_reverse.1 ((List.dropWhile_suffix _).subset (List.mem_reverse.1 hc))
      exact Nat.isDigit_of_mem_toDigits (by decide) (by decide) hmem

/-- A number is written with digits and a point, or as a word. -/
theorem mem_positional {x : Binary64} {c : Char} (h : c ∈ x.positional) :
    c.isDigit ∨ c ∈ ".inf".toList := by
  unfold positional at h
  split at h
  · rename_i d hd
    have hdigits : ∀ c ∈ d.digits, c.isDigit ∨ c ∈ ".inf".toList :=
      fun c hc => .inl (isDigit_of_mem_digits hd hc)
    have hzeros : ∀ count, ∀ c ∈ List.replicate count '0', c.isDigit ∨ c ∈ ".inf".toList := by
      intro count c hc
      exact .inl (List.eq_of_mem_replicate hc ▸ rfl)
    unfold Decimal.positional at h
    split at h
    · simp only [List.mem_cons, List.mem_append] at h
      obtain rfl | rfl | h | h := h
      · exact .inl rfl
      · exact .inr (by decide)
      · exact hzeros _ c h
      · exact hdigits c h
    · split at h
      · obtain h | h := List.mem_append.1 h
        · exact hdigits c h
        · exact hzeros _ c h
      · simp only [List.mem_cons, List.mem_append] at h
        obtain h | rfl | h := h
        · exact hdigits c (List.mem_of_mem_take h)
        · exact .inr (by decide)
        · exact hdigits c (List.mem_of_mem_drop h)
  · exact .inr (by simpa using Or.inr h)

end Binary64

end RoleDaemon

import RoleDaemon.Text.Digits
import Mathlib.Data.List.TakeWhile

/-!
# Numbers Read Back

The written form of a number is read back as the number, whatever follows it, provided that it is not
followed by another digit and that the reader takes as many digits.

Main statements:
- `ofDigits_toDigits`: the digits of a number denote it
- `readNumber_eq_some_iff`: what is read is a number of bounded width at the head of the text
- `readNumber_toDigits`: a number at the head of a text is read back
-/

namespace RoleDaemon.Text

/-! ## §1 Digits -/

variable {radix : Nat}

theorem digitValue?_digitChar (hradix : radix ≤ 16) {n : Nat} (h : n < radix) :
    digitValue? radix n.digitChar = some n := by
  have hvalues : ∀ n < 16, digitValue? 16 n.digitChar = some n := by decide
  have hvalue := hvalues n (by omega)
  unfold digitValue? at hvalue ⊢
  rw [Option.filter_eq_some_iff] at hvalue ⊢
  exact ⟨hvalue.1, decide_eq_true h⟩

theorem isDigitOf_digitChar (hradix : radix ≤ 16) {n : Nat} (h : n < radix) :
    isDigitOf radix n.digitChar := by
  simp [isDigitOf, digitValue?_digitChar hradix h]

/-! ## §2 Written Numbers -/

/-- The digits of a number are digits. -/
theorem isDigitOf_of_mem_toDigits (hone : 1 < radix) (hradix : radix ≤ 16) {n : Nat} {c : Char}
    (h : c ∈ Nat.toDigits radix n) : isDigitOf radix c := by
  induction n using Nat.strong_induction_on with
  | _ n ih =>
    rw [Nat.toDigits_eq_if hone] at h
    split at h
    · rename_i hsmall
      rw [List.mem_singleton.1 h]
      exact isDigitOf_digitChar hradix hsmall
    · rcases List.mem_append.1 h with hearlier | hlast
      · exact ih (n / radix) (Nat.div_lt_self (by omega) hone) hearlier
      · rw [List.mem_singleton.1 hlast]
        exact isDigitOf_digitChar hradix (Nat.mod_lt n (by omega))

/-- The digits of a number denote it. -/
theorem ofDigits_toDigits (hone : 1 < radix) (hradix : radix ≤ 16) (n : Nat) :
    ofDigits radix (Nat.toDigits radix n) = n := by
  induction n using Nat.strong_induction_on with
  | _ n ih =>
    rw [Nat.toDigits_eq_if hone]
    split
    · rename_i hsmall
      simp [ofDigits, digitValue?_digitChar hradix hsmall]
    · have hearlier := ih (n / radix) (Nat.div_lt_self (by omega) hone)
      have hlast := digitValue?_digitChar hradix (Nat.mod_lt n (by omega : radix > 0))
      unfold ofDigits at hearlier ⊢
      rw [List.foldl_append, hearlier, List.foldl_cons, List.foldl_nil, hlast, Option.getD_some]
      exact Nat.div_add_mod' n radix

/-- Only zero is written with a zero in front. -/
theorem head?_toDigits (hone : 1 < radix) (hradix : radix ≤ 16) {n : Nat} (hpos : 0 < n) :
    (Nat.toDigits radix n).head? ≠ some '0' := by
  induction n using Nat.strong_induction_on with
  | _ n ih =>
    rw [Nat.toDigits_eq_if hone]
    split
    · rename_i hsmall
      -- a single digit is zero only for zero
      intro hhead
      have hvalue := digitValue?_digitChar hradix hsmall
      rw [Option.some.inj hhead] at hvalue
      have hzero : digitValue? radix '0' = some 0 := digitValue?_digitChar hradix (n := 0) (by omega)
      rw [hzero] at hvalue
      exact hpos.ne (Option.some.inj hvalue)
    · have hquotient : 0 < n / radix := Nat.div_pos (by omega) (by omega)
      have hearlier := ih (n / radix) (Nat.div_lt_self hpos hone) hquotient
      rw [List.head?_append]
      cases hhead : (Nat.toDigits radix (n / radix)).head? with
      | none => exact absurd (List.head?_eq_none_iff.1 hhead) Nat.toDigits_ne_nil
      | some c => rwa [hhead] at hearlier

/-! ## §3 Reading -/

/-- The text does not go on with a digit. -/
def EndsDigits (radix : Nat) (rest : List Char) : Prop :=
  ∀ c ∈ rest.head?, isDigitOf radix c = false

/-- A run of digits ends where the text does not go on with a digit. -/
theorem span_digits {ds rest : List Char} (hdigits : ∀ c ∈ ds, isDigitOf radix c)
    (hrest : EndsDigits radix rest) :
    (ds ++ rest).takeWhile (isDigitOf radix) = ds ∧
      (ds ++ rest).dropWhile (isDigitOf radix) = rest := by
  rw [List.takeWhile_append_of_pos hdigits, List.dropWhile_append_of_pos hdigits]
  cases rest with
  | nil => simp
  | cons c rest => simp [hrest c rfl]

/-- The spelling of a number: one to `width` digits, and without `leadingZeros` no zero in front of
    another digit. -/
structure IsNumber (radix width : Nat) (leadingZeros : Bool) (ds : List Char) : Prop where
  nonempty : ds ≠ []
  short : ds.length ≤ width
  digits : ∀ c ∈ ds, isDigitOf radix c
  zeros : leadingZeros = false → ds.head? = some '0' → ds.length = 1

/-- What is read is the spelling of a number at the head of the text, up to the last of its digits. -/
theorem readNumber_eq_some_iff {width n : Nat} {leadingZeros : Bool} {cs rest : List Char} :
    readNumber radix width leadingZeros cs = some (n, rest) ↔
      ∃ ds, IsNumber radix width leadingZeros ds ∧ EndsDigits radix rest ∧ cs = ds ++ rest ∧
        n = ofDigits radix ds := by
  have hspelled (ds : List Char) : ¬ (ds.isEmpty || width < ds.length ||
      (!leadingZeros && ds.head? == some '0' && 1 < ds.length)) ↔
      ds ≠ [] ∧ ds.length ≤ width ∧
        (leadingZeros = false → ds.head? = some '0' → ds.length = 1) := by
    cases ds <;> grind
  simp only [readNumber]
  constructor
  · intro h
    split at h
    · cases h
    · rename_i hread
      obtain ⟨hnonempty, hshort, hzeros⟩ := (hspelled _).1 hread
      simp only [Option.some.injEq, Prod.mk.injEq] at h
      obtain ⟨rfl, rfl⟩ := h
      refine ⟨_, ⟨hnonempty, hshort, fun c => List.mem_takeWhile_imp, hzeros⟩, ?_,
        List.takeWhile_append_dropWhile.symm, rfl⟩
      intro c hc
      have hends := List.head?_dropWhile_not (isDigitOf radix) cs
      rwa [Option.mem_def.1 hc] at hends
  · rintro ⟨ds, hds, hrest, rfl, rfl⟩
    obtain ⟨htake, hdrop⟩ := span_digits hds.digits hrest
    rw [htake, hdrop]
    exact if_neg ((hspelled ds).2 ⟨hds.nonempty, hds.short, hds.zeros⟩)

/-- A number without leading zeros is spelled by its digits. -/
theorem isNumber_toDigits (hone : 1 < radix) (hradix : radix ≤ 16) {width n : Nat}
    (hwidth : (Nat.toDigits radix n).length ≤ width) (leadingZeros : Bool) :
    IsNumber radix width leadingZeros (Nat.toDigits radix n) where
  nonempty := Nat.toDigits_ne_nil
  short := hwidth
  digits _ := isDigitOf_of_mem_toDigits hone hradix
  zeros _ hhead := by
    rcases Nat.eq_zero_or_pos n with rfl | hpos
    · rw [Nat.toDigits_zero]
      rfl
    · exact absurd hhead (head?_toDigits hone hradix hpos)

/-- A number at the head of a text is read back. -/
theorem readNumber_toDigits (hone : 1 < radix) (hradix : radix ≤ 16) {width n : Nat}
    (hwidth : (Nat.toDigits radix n).length ≤ width) (leadingZeros : Bool) {rest : List Char}
    (hrest : EndsDigits radix rest) :
    readNumber radix width leadingZeros (Nat.toDigits radix n ++ rest) = some (n, rest) :=
  readNumber_eq_some_iff.2 ⟨_, isNumber_toDigits hone hradix hwidth leadingZeros, hrest, rfl,
    (ofDigits_toDigits hone hradix n).symm⟩

end RoleDaemon.Text

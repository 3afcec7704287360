import RoleDaemon.Proofs.Json.Syntax
import RoleDaemon.Proofs.Text.Digits
import Mathlib.Data.List.DropRight

/-!
# Scanning What Is Well Formed

Every scanner takes a well-formed text off the head of any text that goes on as it may after a value,
and gives what the text writes.  A value that nobody asked for is passed over whatever its depth.

## Architecture

- `EndsValue`: how a text goes on after a value; this is what ends a number
- `piece_of_writes`, `string_of_writes`: a string with its escapes
- `skipString_append`, `skipNumber_append`: strings and numbers of which only the extent is wanted
- `skipLoop_value`, `skipLoop_key`, `skipLoop_first`, `skipLoop_separator`: one step of the loop that
  passes over values, by what is due
- `PassesValue`, `PassesPart`: the steps in which a value, and an item with its blanks, is passed over,
  and a bound on their number; one lemma for each shape of a value
- `passesValue`: every value, by induction on the value

Main statements:
- `number_decimal`: a natural number of 64 bits is read back from its digits
- `skipValue_append`: a value is passed over
-/

namespace RoleDaemon.Json

open Text

/-! ## §1 Blanks -/

theorem isGap_iff {c : Char} : isGap c ↔ c = ' ' ∨ c = '\n' ∨ c = '\t' ∨ c = '\r' := by
  simp [isGap, or_assoc]

theorem skipBlanks_append {gaps : List Char} (hgaps : IsGaps gaps) (cs : List Char) :
    skipBlanks (gaps ++ cs) = skipBlanks cs :=
  List.dropWhile_append_of_pos hgaps

theorem skipBlanks_cons {c : Char} (hgap : isGap c = false) (cs : List Char) :
    skipBlanks (c :: cs) = c :: cs :=
  List.dropWhile_cons_of_neg (by simp [hgap])

/-- Blanks are passed over once and for all. -/
theorem skipBlanks_idem (cs : List Char) : skipBlanks (skipBlanks cs) = skipBlanks cs :=
  List.dropWhile_idempotent isGap cs

/-! ## §2 Strings -/

/-- A letter of an escape stands for its character. -/
theorem shortEscape?_of_mem {letter c : Char} (hform : (letter, c) ∈ shortForms) :
    shortEscape? letter = some c ∧ letter ≠ 'u' := by
  have hforms : ∀ form ∈ shortForms, shortEscape? form.1 = some form.2 ∧ form.1 ≠ 'u' := by decide
  exact hforms (letter, c) hform

theorem escapeNumber_append {n : Nat} {ds : List Char} (hdigits : IsHex n ds) (rest : List Char) :
    escapeNumber (ds ++ rest) = .ok (n, rest) := by
  obtain ⟨a, b, c, d, rfl⟩ := List.length_eq_four.1 hdigits.length
  have hvalue : ∀ x ∈ [a, b, c, d], ∃ v, digitValue? 16 x = some v :=
    fun x hx => Option.isSome_iff_exists.1 (hdigits.digits x hx)
  obtain ⟨va, ha⟩ := hvalue a (by simp)
  obtain ⟨vb, hb⟩ := hvalue b (by simp)
  obtain ⟨vc, hc⟩ := hvalue c (by simp)
  obtain ⟨vd, hd⟩ := hvalue d (by simp)
  have hn : ((va * 16 + vb) * 16 + vc) * 16 + vd = n := by
    simpa [ofDigits, ha, hb, hc, hd] using hdigits.value
  simp [escapeNumber, ha, hb, hc, hd, hn]

theorem piece_quote (rest : List Char) : piece ('"' :: rest) = .ok (.close rest) := by
  simp [piece]

/-- A character is read back from what writes it, whatever follows. -/
theorem piece_of_writes {c : Char} {text : List Char} (hwrites : WritesChar c text)
    (rest : List Char) : piece (text ++ rest) = .ok (.char c rest) := by
  cases hwrites with
  | plain hquote hbackslash hprinting =>
    simp [piece, hquote, hbackslash, Nat.not_lt.2 hprinting]
  | short hform =>
    obtain ⟨hletter, hu⟩ := shortEscape?_of_mem hform
    simp [piece, hu, hletter]
  | @number n ds hdigits hhigh hlow =>
    -- a number that is no half of a pair makes up the character alone
    have hlow' : ¬(0xDC00 ≤ n ∧ n ≤ 0xDFFF) := hlow
    have hhigh' : n < 0xD800 ∨ 0xDBFF < n := by
      unfold IsHighSurrogate at hhigh
      omega
    have hescape : unicodeEscape (ds ++ rest) = .ok (Char.ofNat n, rest) := by
      simp only [unicodeEscape, escapeNumber_append hdigits, bind, Except.bind, if_neg hlow',
        if_pos hhigh']
    simp [piece, hescape, bind, Except.bind]
  | @pair high low ds es hfirst hsecond hhigh hlow =>
    -- the first half asks for a second one, and the second one has to be of the other kind
    have hnotLow : ¬(0xDC00 ≤ high ∧ high ≤ 0xDFFF) := by
      unfold IsHighSurrogate at hhigh
      omega
    have hnotPlain : ¬(high < 0xD800 ∨ 0xDBFF < high) := by
      unfold IsHighSurrogate at hhigh
      omega
    have hisLow : ¬(low < 0xDC00 ∨ 0xDFFF < low) := by
      unfold IsLowSurrogate at hlow
      omega
    have hescape : unicodeEscape (ds ++ '\\' :: 'u' :: (es ++ rest)) =
        .ok (Char.ofNat ((high - 0xD800) * 0x400 + (low - 0xDC00) + 0x10000), rest) := by
      simp only [unicodeEscape, escapeNumber_append hfirst, escapeNumber_append hsecond, bind,
        Except.bind, if_neg hnotLow, if_neg hnotPlain, if_neg hisLow, ne_eq, not_true, if_false]
    simp [piece, hescape, bind, Except.bind]

/-- Every character takes up at least one in the text. -/
theorem WritesChars.length_le {cs body : List Char} (hbody : WritesChars cs body) :
    cs.length ≤ body.length := by
  induction hbody with
  | nil => simp
  | @cons c text cs texts hfirst hrest ih =>
    have hpos : 0 < text.length := by cases hfirst <;> simp
    simp only [List.length_cons, List.length_append]
    omega

theorem stringLoop_of_writes {cs body : List Char} (hbody : WritesChars cs body) (taken : List Char)
    (fuel : Nat) (hfuel : cs.length < fuel) (rest : List Char) :
    stringLoop fuel taken (body ++ '"' :: rest) =
      .ok (String.ofList (taken.reverse ++ cs), rest) := by
  -- one step for each character that is written, and one for the quote
  induction hbody generalizing taken fuel with
  | nil =>
    obtain ⟨fuel, rfl⟩ := Nat.exists_eq_add_one_of_ne_zero (Nat.ne_zero_of_lt hfuel)
    simp [stringLoop, piece_quote]
  | @cons c text cs texts hfirst hrest ih =>
    obtain ⟨fuel, rfl⟩ := Nat.exists_eq_add_one_of_ne_zero (Nat.ne_zero_of_lt hfuel)
    have hlater := ih (c :: taken) fuel (by simpa using hfuel)
    rw [stringLoop, List.append_assoc, piece_of_writes hfirst]
    simpa using hlater

/-- A string is read back from behind its opening quote on. -/
theorem string_of_writes {s : String} {body : List Char} (hbody : WritesChars s.toList body)
    (rest : List Char) : Json.string (body ++ '"' :: rest) = .ok (s, rest) := by
  have hlength := hbody.length_le
  have hloop := stringLoop_of_writes hbody [] ((body ++ '"' :: rest).length + 1)
    (by simp only [List.length_append]; omega) rest
  simpa [Json.string] using hloop

theorem skipStringLoop_append {body : List Char} (hbody : IsStringBody body) (fuel : Nat)
    (hfuel : body.length < fuel) (rest : List Char) :
    skipStringLoop fuel (body ++ '"' :: rest) = .ok ((), rest) := by
  induction hbody generalizing fuel with
  | nil =>
    obtain ⟨fuel, rfl⟩ := Nat.exists_eq_add_one_of_ne_zero (Nat.ne_zero_of_lt hfuel)
    simp [skipStringLoop]
  | plain hquote hbackslash hprinting hrest ih =>
    obtain ⟨fuel, rfl⟩ := Nat.exists_eq_add_one_of_ne_zero (Nat.ne_zero_of_lt hfuel)
    have hlater := ih fuel (by simpa using hfuel)
    simpa [skipStringLoop, hquote, hbackslash, Nat.not_lt.2 hprinting] using hlater
  | short hform hrest ih =>
    obtain ⟨fuel, rfl⟩ := Nat.exists_eq_add_one_of_ne_zero (Nat.ne_zero_of_lt hfuel)
    obtain ⟨hletter, hu⟩ := shortEscape?_of_mem hform
    have hlater := ih fuel (by simp only [List.length_cons] at hfuel; omega)
    simpa [skipStringLoop, hletter, hu] using hlater
  | number hdigits hrest ih =>
    obtain ⟨fuel, rfl⟩ := Nat.exists_eq_add_one_of_ne_zero (Nat.ne_zero_of_lt hfuel)
    have hlater := ih fuel
      (by simp only [List.length_cons, List.length_append] at hfuel; omega)
    simpa [skipStringLoop, escapeNumber_append hdigits] using hlater

/-- A string is passed over from behind its opening quote on. -/
theorem skipString_append {body : List Char} (hbody : IsStringBody body) (rest : List Char) :
    skipString (body ++ '"' :: rest) = .ok ((), rest) :=
  skipStringLoop_append hbody _ (by simp only [List.length_append]; omega) rest

/-! ## §3 Numbers -/

/-- The text goes on as it may after a value. -/
def EndsValue (rest : List Char) : Prop :=
  ∀ c ∈ rest.head?, isGap c ∨ c ∈ [',', ']', '\x7d']

theorem endsValue_cons {c : Char} (hc : isGap c ∨ c ∈ [',', ']', '\x7d']) (cs : List Char) :
    EndsValue (c :: cs) := by
  rintro c ⟨⟩
  exact hc

/-- Blanks may stand behind a value. -/
theorem EndsValue.gaps {rest gaps : List Char} (hrest : EndsValue rest) (hgaps : IsGaps gaps) :
    EndsValue (gaps ++ rest) := by
  cases gaps with
  | nil => exact hrest
  | cons c gaps => exact endsValue_cons (.inl (hgaps c (by simp))) _

/-- No blank and no separator belongs to a number. -/
theorem EndsValue.head {rest : List Char} (hrest : EndsValue rest) :
    ∀ c ∈ rest.head?, isDigit c = false ∧ c ≠ '.' ∧ c ≠ 'e' ∧ c ≠ 'E' := by
  intro c hc
  rcases hrest c hc with hgap | hmark
  · rcases isGap_iff.1 hgap with rfl | rfl | rfl | rfl <;> decide
  · simp only [List.mem_cons, List.not_mem_nil, or_false] at hmark
    rcases hmark with rfl | rfl | rfl <;> decide

theorem EndsValue.endsDigits {rest : List Char} (hrest : EndsValue rest) : EndsDigits 10 rest :=
  fun c hc => (hrest.head c hc).1

/-- Digits end where the text does not go on with one. -/
theorem span_isDigit {ds rest : List Char} (hdigits : ∀ d ∈ ds, isDigit d)
    (hrest : EndsDigits 10 rest) :
    (ds ++ rest).takeWhile isDigit = ds ∧ (ds ++ rest).dropWhile isDigit = rest :=
  span_digits hdigits hrest

/-- A number only grows with the digits that follow. -/
theorem le_foldl_digits (ds : List Char) (n : Nat) :
    n ≤ ds.foldl (fun n d => n * 10 + (digitValue? 10 d).getD 0) n := by
  induction ds generalizing n with
  | nil => simp
  | cons d ds ih =>
    have hnext : n ≤ n * 10 + (digitValue? 10 d).getD 0 := by omega
    exact Nat.le_trans hnext (ih _)

/-- Digits that fit into a significand are all taken. -/
theorem absorb_eq (ds : List Char) (significand taken : Nat)
    (hfits : ds.foldl (fun n d => n * 10 + (digitValue? 10 d).getD 0) significand ≤ maxUnsigned) :
    absorb significand taken ds =
      (ds.foldl (fun n d => n * 10 + (digitValue? 10 d).getD 0) significand, taken + ds.length, []) := by
  induction ds generalizing significand taken with
  | nil => rfl
  | cons d ds ih =>
    have hnext : significand * 10 + (digitValue? 10 d).getD 0 ≤ maxUnsigned :=
      Nat.le_trans (le_foldl_digits ds _) hfits
    rw [absorb, if_pos hnext, ih _ _ hfits, List.length_cons, Nat.add_right_comm, Nat.add_assoc]
    rfl

/-- The digits of a number, taken apart. -/
theorem decimal_cons (n : Nat) : ∃ c tail, decimal n = c :: tail ∧ isDigit c ∧ (c = '0' → tail = []) := by
  obtain ⟨c, tail, hdecimal⟩ := List.exists_cons_of_ne_nil (Nat.toDigits_ne_nil (n := n) (b := 10))
  have hdigit : isDigit c :=
    isDigitOf_of_mem_toDigits (by decide) (by decide) (n := n) (by simp [hdecimal])
  refine ⟨c, tail, hdecimal, hdigit, ?_⟩
  rintro rfl
  rcases Nat.eq_zero_or_pos n with rfl | hpos
  · simpa using hdecimal.symm
  · have hhead : (Nat.toDigits 10 n).head? = some '0' := by rw [hdecimal]; rfl
    exact absurd hhead (head?_toDigits (by decide) (by decide) hpos)

/-- A natural number of 64 bits is read back from its digits. -/
theorem number_decimal {n : Nat} (hn : n ≤ maxUnsigned) {rest : List Char} (hrest : EndsValue rest) :
    number false (decimal n ++ rest) = .ok (.unsigned n, rest) := by
  obtain ⟨c, tail, hdecimal, hdigit, hzero⟩ := decimal_cons n
  have hdigits : ∀ d ∈ decimal n, isDigit d :=
    fun d hd => isDigitOf_of_mem_toDigits (by decide) (by decide) hd
  obtain ⟨htake, hdrop⟩ := span_isDigit hdigits hrest.endsDigits
  have hvalue : ofDigits 10 (decimal n) = n := ofDigits_toDigits (by decide) (by decide) n
  have habsorb : absorb 0 0 (decimal n) = (n, 0 + (decimal n).length, []) := by
    have hall := absorb_eq (decimal n) 0 0 (by rw [← ofDigits, hvalue]; exact hn)
    rwa [← ofDigits, hvalue] at hall
  -- behind a leading zero nothing of the number follows
  have hleading : ¬(c = '0' ∧ ((tail ++ rest).head?.map isDigit).getD false) := by
    rintro ⟨hc, hnext⟩
    rw [hzero hc, List.nil_append] at hnext
    cases rest with
    | nil => simp at hnext
    | cons d rest => simp [(hrest.head d rfl).1] at hnext
  -- and behind the digits neither a fraction nor an exponent
  have hend : ¬(rest.head? = some 'e' ∨ rest.head? = some 'E' ∨ !([] : List Char).isEmpty) := by
    rintro (h | h | h)
    · exact (hrest.head 'e' h).2.2.1 rfl
    · exact (hrest.head 'E' h).2.2.2 rfl
    · simp at h
  rw [hdecimal] at htake hdrop habsorb ⊢
  rw [List.cons_append] at htake hdrop ⊢
  simp only [number, hdigit, hleading, htake, hdrop, habsorb, Bool.not_true, if_false,
    Bool.false_eq_true]
  split
  · exact absurd rfl (hrest.head '.' rfl).2.1
  · rw [if_neg hend]
    rfl

theorem IsDigits.cons {ds : List Char} (h : IsDigits ds) : ∃ d tail, ds = d :: tail ∧ isDigit d := by
  obtain ⟨d, tail, rfl⟩ := List.exists_cons_of_ne_nil h.nonempty
  exact ⟨d, tail, rfl, h.digits d (by simp)⟩

theorem skipExponent_append {sign ds rest : List Char} (hsign : sign ∈ [[], ['+'], ['-']])
    (hds : IsDigits ds) (hrest : EndsValue rest) :
    skipExponent (sign ++ (ds ++ rest)) = .ok ((), rest) := by
  obtain ⟨-, hdrop⟩ := span_isDigit hds.digits hrest.endsDigits
  obtain ⟨d, tail, rfl, hdigit⟩ := hds.cons
  have hplain : d ≠ '+' ∧ d ≠ '-' := by
    constructor <;> rintro rfl <;> exact absurd hdigit (by decide)
  simp only [List.mem_cons, List.not_mem_nil, or_false] at hsign
  rw [List.cons_append] at hdrop ⊢
  rcases hsign with rfl | rfl | rfl <;> simp [skipExponent, hplain, hdigit, hdrop]

theorem skipNumberEnd_append {exponent rest : List Char} (hexponent : IsExponent exponent)
    (hrest : EndsValue rest) : skipNumberEnd (exponent ++ rest) = .ok ((), rest) := by
  rcases hexponent with rfl | ⟨letter, hletter, sign, hsign, ds, hds, rfl⟩
  · cases rest with
    | nil => rfl
    | cons c rest =>
      obtain ⟨-, -, he, hE⟩ := hrest.head c rfl
      simp [skipNumberEnd, he, hE]
  · have hmarks : letter = 'e' ∨ letter = 'E' := by simpa using hletter
    rw [List.cons_append, List.append_assoc, skipNumberEnd, if_pos hmarks]
    exact skipExponent_append hsign hds hrest

/-- Neither the exponent nor the rest of the text goes on with what stands before them. -/
theorem head_exponent {exponent rest : List Char} (hexponent : IsExponent exponent)
    (hrest : EndsValue rest) : ∀ c ∈ (exponent ++ rest).head?, isDigit c = false ∧ c ≠ '.' := by
  rcases hexponent with rfl | ⟨letter, hletter, sign, -, ds, -, rfl⟩
  · exact fun c hc => ⟨(hrest.head c hc).1, (hrest.head c hc).2.1⟩
  · rintro c ⟨⟩
    simp only [List.mem_cons, List.not_mem_nil, or_false] at hletter
    rcases hletter with rfl | rfl <;> decide

theorem skipNumber_append {whole fraction exponent rest : List Char} (hwhole : IsWhole whole)
    (hfraction : IsFraction fraction) (hexponent : IsExponent exponent) (hrest : EndsValue rest) :
    skipNumber (whole ++ (fraction ++ (exponent ++ rest))) = .ok ((), rest) := by
  have hend := head_exponent hexponent hrest
  have hbehind : EndsDigits 10 (fraction ++ (exponent ++ rest)) := by
    rcases hfraction with rfl | ⟨ds, -, rfl⟩
    · exact fun c hc => (hend c hc).1
    · rintro c ⟨⟩
      decide
  obtain ⟨-, hdrop⟩ := span_isDigit hwhole.digits hbehind
  obtain ⟨d, tail, rfl, hdigit⟩ := hwhole.cons
  have hleading : ¬(d = '0' ∧
      ((tail ++ (fraction ++ (exponent ++ rest))).head?.map isDigit).getD false) := by
    rintro ⟨rfl, hnext⟩
    obtain rfl : tail = [] := by simpa using hwhole.zero rfl
    rw [List.nil_append] at hnext
    cases hhead : (fraction ++ (exponent ++ rest)).head? with
    | none => simp [hhead] at hnext
    | some c =>
      have hc : isDigit c = false := hbehind c hhead
      simp [hhead, hc] at hnext
  rw [List.cons_append] at hdrop ⊢
  simp only [skipNumber, hdigit, hleading, hdrop, Bool.not_true, if_false, Bool.false_eq_true]
  rcases hfraction with rfl | ⟨ds, hds, rfl⟩
  · rw [List.nil_append]
    split
    · rename_i hpoint
      exact absurd rfl (hend '.' (by simp [hpoint])).2
    · exact skipNumberEnd_append hexponent hrest
  · obtain ⟨htake, hdrop⟩ := span_isDigit hds.digits (fun c hc => (hend c hc).1)
    simp only [List.cons_append, htake, hdrop, if_neg hds.nonempty]
    exact skipNumberEnd_append hexponent hrest

/-! ## §4 How a Value Starts -/

/-- The first character that is not a blank is not the given one, whatever follows the text. -/
def StartsWithout (closing : Char) (text : List Char) : Prop :=
  ∀ rest, ∃ c cs, skipBlanks (text ++ rest) = c :: cs ∧ c ≠ closing

theorem startsWithout_cons {closing c : Char} (hgap : isGap c = false) (hne : c ≠ closing)
    (cs : List Char) : StartsWithout closing (c :: cs) :=
  fun rest => ⟨c, cs ++ rest, skipBlanks_cons hgap _, hne⟩

theorem StartsWithout.gaps {closing : Char} {text gaps : List Char} (h : StartsWithout closing text)
    (hgaps : IsGaps gaps) : StartsWithout closing (gaps ++ text) := by
  intro rest
  rw [List.append_assoc, skipBlanks_append hgaps]
  exact h rest

theorem StartsWithout.append {closing : Char} {text : List Char} (h : StartsWithout closing text)
    (behind : List Char) : StartsWithout closing (text ++ behind) := by
  intro rest
  rw [List.append_assoc]
  exact h (behind ++ rest)

theorem StartsWithout.element {closing : Char} {value text : List Char}
    (h : StartsWithout closing value) (helement : IsElement value text) :
    StartsWithout closing text := by
  obtain ⟨before, behind, hbefore, -, rfl⟩ := helement
  exact (h.append behind).gaps hbefore

/-- A list of items starts as its first item does. -/
theorem StartsWithout.listed {α : Type} {IsItem : α → List Char → Prop} {closing : Char}
    {items : List α} {texts : List Char} (hlisted : Listed IsItem items texts)
    (hitems : ∀ a ∈ items, ∀ text, IsItem a text → StartsWithout closing text) :
    StartsWithout closing texts := by
  cases hlisted with
  | one hitem => exact hitems _ (by simp) _ hitem
  | cons hitem _ => exact (hitems _ (by simp) _ hitem).append _

/-- A digit is neither a blank nor a bracket. -/
theorem isDigit_plain {d : Char} (hdigit : isDigit d) :
    isGap d = false ∧ d ∉ ['[', ']', '\x7b', '\x7d', '"', 'n', 't', 'f', '-'] := by
  constructor
  · by_contra hgap
    rcases isGap_iff.1 (Bool.not_eq_false _ ▸ hgap) with rfl | rfl | rfl | rfl <;>
      exact absurd hdigit (by decide)
  · intro hmem
    simp only [List.mem_cons, List.not_mem_nil, or_false] at hmem
    rcases hmem with rfl | rfl | rfl | rfl | rfl | rfl | rfl | rfl | rfl <;>
      exact absurd hdigit (by decide)

/-- What is no closing bracket is not the given one. -/
theorem ne_closing {closing c : Char} (hclosing : closing ∈ [']', '\x7d'])
    (hc : c ∉ [']', '\x7d']) : c ≠ closing :=
  fun heq => hc (heq ▸ hclosing)

theorem IsString.startsWithout {text : List Char} (h : IsString text) {closing : Char}
    (hclosing : closing ∈ [']', '\x7d']) : StartsWithout closing text := by
  obtain ⟨body, -, rfl⟩ := h
  exact startsWithout_cons (by decide) (ne_closing hclosing (by decide)) _

theorem IsNumeral.startsWithout {text : List Char} (h : IsNumeral text) {closing : Char}
    (hclosing : closing ∈ [']', '\x7d']) : StartsWithout closing text := by
  obtain ⟨sign, hsign, whole, fraction, exponent, hwhole, -, -, rfl⟩ := h
  simp only [List.mem_cons, List.not_mem_nil, or_false] at hsign
  rcases hsign with rfl | rfl
  · obtain ⟨d, tail, rfl, hdigit⟩ := hwhole.cons
    obtain ⟨hgap, hplain⟩ := isDigit_plain hdigit
    refine startsWithout_cons hgap ?_ _
    rintro rfl
    simp only [List.mem_cons, List.not_mem_nil, or_false] at hclosing hplain
    rcases hclosing with rfl | rfl <;> simp at hplain
  · exact startsWithout_cons (by decide) (ne_closing hclosing (by decide)) _

theorem IsValue.startsWithout {text : List Char} (h : IsValue text) {closing : Char}
    (hclosing : closing ∈ [']', '\x7d']) : StartsWithout closing text := by
  cases h with
  | word hword =>
    simp only [words, List.mem_cons, List.not_mem_nil, or_false] at hword
    rcases hword with rfl | rfl | rfl <;>
      exact startsWithout_cons (by decide) (ne_closing hclosing (by decide)) _
  | numeral hnumeral => exact hnumeral.startsWithout hclosing
  | string hstring => exact hstring.startsWithout hclosing
  | list hlayout _ =>
    cases hlayout <;> exact startsWithout_cons (by decide) (ne_closing hclosing (by decide)) _
  | object hlayout _ =>
    cases hlayout <;> exact startsWithout_cons (by decide) (ne_closing hclosing (by decide)) _

/-! ## §5 Values Passed Over -/

/-- A value is due: a list or an object is entered, and anything else is passed over. -/
theorem skipLoop_value (fuel : Nat) (frames : List Frame) (cs : List Char) :
    skipLoop (fuel + 1) .value frames cs =
      match skipStart cs with
      | .error e => .error e
      | .ok (none, rest) => skipLoop fuel .separator frames rest
      | .ok (some frame, rest) => skipLoop fuel .first (frame :: frames) rest :=
  rfl

theorem skipLoop_key (fuel : Nat) (frames : List Frame) (cs : List Char) :
    skipLoop (fuel + 1) .key frames cs =
      match skipKey cs with
      | .error e => .error e
      | .ok (_, rest) => skipLoop fuel .value frames rest :=
  rfl

theorem skipLoop_first (fuel : Nat) (frame : Frame) (frames : List Frame) (cs : List Char) :
    skipLoop (fuel + 1) .first (frame :: frames) cs =
      match skipBlanks cs with
      | [] => .error frame.early
      | c :: rest =>
        if c = frame.close then skipLoop fuel .separator frames rest
        else skipLoop fuel frame.part (frame :: frames) (c :: rest) :=
  rfl

/-- Behind a part of a list or an object comes the next part, or its end. -/
theorem skipLoop_separator (fuel : Nat) (frame : Frame) (frames : List Frame) (cs : List Char) :
    skipLoop (fuel + 1) .separator (frame :: frames) cs =
      match skipBlanks cs with
      | [] => .error frame.early
      | c :: rest =>
        if c = ',' then skipLoop fuel frame.part (frame :: frames) rest
        else if c = frame.close then skipLoop fuel .separator frames rest
        else .error frame.unseparated :=
  rfl

/-- A value is passed over in a number of steps that its length bounds. -/
def PassesValue (value : List Char) : Prop :=
  ∃ n ≤ 2 * value.length, ∀ fuel frames rest, EndsValue rest →
    skipLoop (fuel + n) .value frames (value ++ rest) = skipLoop fuel .separator frames rest

/-- A part of a list or an object, with the blanks around it, is passed over in a number of steps that
    its length bounds. -/
def PassesPart (frame : Frame) (text : List Char) : Prop :=
  ∃ n ≤ 2 * text.length, ∀ fuel frames rest, EndsValue rest →
    skipLoop (fuel + n) frame.part (frame :: frames) (text ++ rest) =
      skipLoop fuel .separator (frame :: frames) rest

theorem skipStart_gaps {gaps : List Char} (hgaps : IsGaps gaps) (cs : List Char) :
    skipStart (gaps ++ cs) = skipStart cs := by
  rw [skipStart, skipStart, skipBlanks_append hgaps]

theorem skipLoop_value_gaps {gaps : List Char} (hgaps : IsGaps gaps) (fuel : Nat)
    (frames : List Frame) (cs : List Char) :
    skipLoop fuel .value frames (gaps ++ cs) = skipLoop fuel .value frames cs := by
  cases fuel with
  | zero => rfl
  | succ fuel => rw [skipLoop_value, skipLoop_value, skipStart_gaps hgaps]

theorem skipLoop_separator_gaps {gaps : List Char} (hgaps : IsGaps gaps) (fuel : Nat) (frame : Frame)
    (frames : List Frame) (cs : List Char) :
    skipLoop fuel .separator (frame :: frames) (gaps ++ cs) =
      skipLoop fuel .separator (frame :: frames) cs := by
  cases fuel with
  | zero => rfl
  | succ fuel => rw [skipLoop_separator, skipLoop_separator, skipBlanks_append hgaps]

/-- What comes first in a list or an object is looked for behind the blanks. -/
theorem skipLoop_part_skipBlanks (fuel : Nat) (frame : Frame) (frames : List Frame)
    (cs : List Char) :
    skipLoop fuel frame.part frames (skipBlanks cs) = skipLoop fuel frame.part frames cs := by
  cases fuel with
  | zero => rfl
  | succ fuel =>
    cases frame with
    | list => simp only [Frame.part, skipLoop_value, skipStart, skipBlanks_idem]
    | object => simp only [Frame.part, skipLoop_key, skipKey, skipBlanks_idem]

theorem skipLoop_comma (fuel : Nat) (frame : Frame) (frames : List Frame) (cs : List Char) :
    skipLoop (fuel + 1) .separator (frame :: frames) (',' :: cs) =
      skipLoop fuel frame.part (frame :: frames) cs := by
  rw [skipLoop_separator, skipBlanks_cons (by decide)]
  simp

theorem Frame.isGap_close (frame : Frame) : isGap frame.close = false := by
  cases frame <;> decide

theorem skipLoop_close (fuel : Nat) (frame : Frame) (frames : List Frame) (cs : List Char) :
    skipLoop (fuel + 1) .separator (frame :: frames) (frame.close :: cs) =
      skipLoop fuel .separator frames cs := by
  have hcomma : frame.close ≠ ',' := by cases frame <;> decide
  rw [skipLoop_separator, skipBlanks_cons frame.isGap_close]
  simp [hcomma]

theorem skipLoop_first_close {gaps : List Char} (hgaps : IsGaps gaps) (fuel : Nat) (frame : Frame)
    (frames : List Frame) (cs : List Char) :
    skipLoop (fuel + 1) .first (frame :: frames) (gaps ++ frame.close :: cs) =
      skipLoop fuel .separator frames cs := by
  rw [skipLoop_first, skipBlanks_append hgaps, skipBlanks_cons frame.isGap_close]
  simp

theorem skipLoop_first_part {frame : Frame} {text : List Char} (h : StartsWithout frame.close text)
    (fuel : Nat) (frames : List Frame) (rest : List Char) :
    skipLoop (fuel + 1) .first (frame :: frames) (text ++ rest) =
      skipLoop fuel frame.part (frame :: frames) (text ++ rest) := by
  obtain ⟨c, cs, hblanks, hne⟩ := h rest
  rw [skipLoop_first, ← skipLoop_part_skipBlanks fuel frame _ (text ++ rest), hblanks]
  simp [hne]

theorem skipStart_word {text : List Char} (hword : text ∈ words) (rest : List Char) :
    skipStart (text ++ rest) = .ok (none, rest) := by
  simp only [words, List.mem_cons, List.not_mem_nil, or_false] at hword
  rcases hword with rfl | rfl | rfl <;> rfl

theorem skipStart_numeral {text rest : List Char} (hnumeral : IsNumeral text)
    (hrest : EndsValue rest) : skipStart (text ++ rest) = .ok (none, rest) := by
  obtain ⟨sign, hsign, whole, fraction, exponent, hwhole, hfraction, hexponent, rfl⟩ := hnumeral
  have hskip := skipNumber_append hwhole hfraction hexponent hrest
  simp only [List.mem_cons, List.not_mem_nil, or_false] at hsign
  simp only [List.append_assoc]
  rcases hsign with rfl | rfl
  · obtain ⟨d, tail, rfl, hdigit⟩ := hwhole.cons
    obtain ⟨hgap, hplain⟩ := isDigit_plain hdigit
    simp only [List.mem_cons, List.not_mem_nil, or_false, not_or] at hplain
    rw [List.nil_append, List.cons_append] at *
    simp [skipStart, skipBlanks_cons hgap, hplain, hdigit, hskip, Except.map]
  · simp [skipStart, skipBlanks_cons, isGap, hskip, Except.map]

theorem skipStart_string {text : List Char} (hstring : IsString text) (rest : List Char) :
    skipStart (text ++ rest) = .ok (none, rest) := by
  obtain ⟨body, hbody, rfl⟩ := hstring
  have hdigit : isDigit '"' = false := by decide
  simp [skipStart, skipBlanks_cons, isGap, skipString_append hbody, Except.map, hdigit]

theorem passesValue_of_start {value : List Char} (hpos : 0 < value.length)
    (hstart : ∀ rest, EndsValue rest → skipStart (value ++ rest) = .ok (none, rest)) :
    PassesValue value := by
  refine ⟨1, by omega, fun fuel frames rest hrest => ?_⟩
  rw [skipLoop_value, hstart rest hrest]

/-- A value with its blanks is passed over inside a list or an object. -/
theorem PassesValue.element {value text : List Char} (hvalue : PassesValue value)
    (helement : IsElement value text) :
    ∃ n ≤ 2 * text.length, ∀ fuel frame frames rest, EndsValue rest →
      skipLoop (fuel + n) .value (frame :: frames) (text ++ rest) =
        skipLoop fuel .separator (frame :: frames) rest := by
  obtain ⟨before, behind, hbefore, hbehind, rfl⟩ := helement
  obtain ⟨n, hn, hsteps⟩ := hvalue
  refine ⟨n, by simp only [List.length_append]; omega, fun fuel frame frames rest hrest => ?_⟩
  rw [List.append_assoc, List.append_assoc, skipLoop_value_gaps hbefore,
    hsteps fuel _ _ (hrest.gaps hbehind), skipLoop_separator_gaps hbehind]

theorem PassesValue.listPart {value text : List Char} (hvalue : PassesValue value)
    (helement : IsElement value text) : PassesPart .list text := by
  obtain ⟨n, hn, hsteps⟩ := hvalue.element helement
  exact ⟨n, hn, fun fuel frames rest hrest => hsteps fuel _ frames rest hrest⟩

theorem skipKey_append {before key between : List Char} (hbefore : IsGaps before)
    (hkey : IsString key) (hbetween : IsGaps between) (rest : List Char) :
    skipKey (before ++ (key ++ (between ++ ':' :: rest))) = .ok ((), rest) := by
  obtain ⟨body, hbody, rfl⟩ := hkey
  have hcolon : skipBlanks (between ++ ':' :: rest) = ':' :: rest := by
    rw [skipBlanks_append hbetween, skipBlanks_cons (by decide)]
  rw [skipKey, skipBlanks_append hbefore, List.cons_append, skipBlanks_cons (by decide)]
  simp [skipString_append hbody, hcolon]

theorem PassesValue.objectPart {member : Unit × List Char} {text : List Char}
    (hvalue : PassesValue member.2) (hmember : IsMember (fun _ => IsString) member text) :
    PassesPart .object text := by
  obtain ⟨before, key, between, element, hbefore, hkey, hbetween, helement, rfl⟩ := hmember
  obtain ⟨n, hn, hsteps⟩ := hvalue.element helement
  refine ⟨n + 1, by simp only [List.length_append, List.length_cons]; omega,
    fun fuel frames rest hrest => ?_⟩
  have hassoc : before ++ (key ++ (between ++ ':' :: element)) ++ rest =
      before ++ (key ++ (between ++ ':' :: (element ++ rest))) := by simp
  rw [hassoc, Frame.part, ← Nat.add_assoc, skipLoop_key, skipKey_append hbefore hkey hbetween]
  exact hsteps fuel _ frames rest hrest

/-- The parts of a list or an object are passed over up to behind its closing bracket. -/
theorem skipLoop_listed {α : Type} {IsItem : α → List Char → Prop} {frame : Frame} {items : List α}
    {texts : List Char} (hlisted : Listed IsItem items texts)
    (hitems : ∀ a ∈ items, ∀ text, IsItem a text → PassesPart frame text) :
    ∃ n ≤ 2 * texts.length + 1, ∀ fuel frames rest,
      skipLoop (fuel + n) frame.part (frame :: frames) (texts ++ frame.close :: rest) =
        skipLoop fuel .separator frames rest := by
  -- behind a part stands the closing bracket or a comma, and a value may end before both
  have hclose : ∀ rest, EndsValue (frame.close :: rest) :=
    fun rest => endsValue_cons (.inr (by cases frame <;> decide)) rest
  induction hlisted with
  | @one a text hitem =>
    obtain ⟨n, hn, hsteps⟩ := hitems a (by simp) text hitem
    refine ⟨n + 1, by omega, fun fuel frames rest => ?_⟩
    rw [Nat.add_comm n 1, ← Nat.add_assoc, hsteps _ _ _ (hclose rest), skipLoop_close]
  | @cons a text items texts hitem hrest ih =>
    obtain ⟨n, hn, hsteps⟩ := hitems a (by simp) text hitem
    obtain ⟨m, hm, hlater⟩ := ih fun a ha => hitems a (List.mem_cons_of_mem _ ha)
    have hcomma : ∀ rest, EndsValue (',' :: rest) := fun rest => endsValue_cons (.inr (by decide)) rest
    refine ⟨m + 1 + n, by simp only [List.length_append, List.length_cons]; omega,
      fun fuel frames rest => ?_⟩
    rw [List.append_assoc, List.cons_append, ← Nat.add_assoc, hsteps _ _ _ (hcomma _),
      ← Nat.add_assoc, skipLoop_comma, hlater]

/-- A list or an object is passed over when its parts are. -/
theorem passesValue_bracketed (frame : Frame) {α : Type} {IsItem : α → List Char → Prop}
    {opening : Char} {items : List α} {text : List Char}
    (hlayout : Bracketed opening frame.close IsItem items text)
    (hopening : ∀ rest, skipStart (opening :: rest) = .ok (some frame, rest))
    (hstarts : ∀ a ∈ items, ∀ text, IsItem a text → StartsWithout frame.close text)
    (hitems : ∀ a ∈ items, ∀ text, IsItem a text → PassesPart frame text) : PassesValue text := by
  cases hlayout with
  | @empty gaps hgaps =>
    -- one step for each bracket
    refine ⟨2, by simp only [List.length_cons, List.length_append, List.length_nil]; omega,
      fun fuel frames rest _ => ?_⟩
    rw [List.cons_append, List.append_assoc, skipLoop_value, hopening]
    exact skipLoop_first_close hgaps fuel frame frames rest
  | @filled _ texts hlisted =>
    obtain ⟨n, hn, hsteps⟩ := skipLoop_listed hlisted hitems
    refine ⟨n + 2, by simp only [List.length_cons, List.length_append, List.length_nil]; omega,
      fun fuel frames rest _ => ?_⟩
    rw [List.cons_append, List.append_assoc, ← Nat.add_assoc, skipLoop_value, hopening]
    dsimp only
    rw [skipLoop_first_part (.listed hlisted hstarts)]
    exact hsteps fuel frames rest

/-- Every value is passed over, whatever its depth. -/
theorem IsValue.passes {value : List Char} (h : IsValue value) : PassesValue value := by
  -- induction on the value: what stands inside a list or an object is passed over already
  induction h with
  | @word text hword =>
    have hpos : ∀ text ∈ words, 0 < text.length := by decide
    exact passesValue_of_start (hpos text hword) fun rest _ => skipStart_word hword rest
  | @numeral text hnumeral =>
    refine passesValue_of_start ?_ fun rest hrest => skipStart_numeral hnumeral hrest
    obtain ⟨sign, -, whole, fraction, exponent, hwhole, -, -, rfl⟩ := hnumeral
    have := List.length_pos_iff.2 hwhole.nonempty
    simp only [List.length_append]
    omega
  | @string text hstring =>
    refine passesValue_of_start ?_ fun rest _ => skipStart_string hstring rest
    obtain ⟨body, -, rfl⟩ := hstring
    simp
  | @list values text hlayout hvalues ih =>
    refine passesValue_bracketed .list hlayout (fun rest => rfl) ?_ ?_
    · exact fun v hv text helement => ((hvalues v hv).startsWithout (by decide)).element helement
    · exact fun v hv text helement => (ih v hv).listPart helement
  | @object members text hlayout hvalues ih =>
    refine passesValue_bracketed .object hlayout (fun rest => rfl) ?_ ?_
    · rintro m hm text ⟨before, key, between, element, hbefore, hkey, -, -, rfl⟩
      exact ((hkey.startsWithout (by decide)).append _).gaps hbefore
    · exact fun m hm text hmember => (ih m hm).objectPart hmember

/-- **A value is passed over.**  Whatever value stands at the head of a text, however deep, it is passed
over together with the blanks before it, when the text goes on as it may after a value. -/
theorem skipValue_append {gaps value rest : List Char} (hgaps : IsGaps gaps) (hvalue : IsValue value)
    (hrest : EndsValue rest) : skipValue (gaps ++ (value ++ rest)) = .ok ((), rest) := by
  obtain ⟨n, hn, hsteps⟩ := hvalue.passes
  -- the bound on the steps leaves at least one for the end of the value
  obtain ⟨fuel, hfuel⟩ : ∃ fuel, 2 * (gaps ++ (value ++ rest)).length + 2 = fuel + 1 + n := by
    refine ⟨2 * (gaps ++ (value ++ rest)).length + 1 - n, ?_⟩
    simp only [List.length_append]
    omega
  rw [skipValue, hfuel, skipLoop_value_gaps hgaps, hsteps _ _ _ hrest]
  rfl

end RoleDaemon.Json

import RoleDaemon.Json.Scan
import Mathlib.Data.List.Forall2
import Mathlib.Data.List.Nodup

/-!
# The Syntax of JSON Texts

Which texts are JSON values, and which value a text writes.  Nothing here refers to how a text is
scanned: the readers are measured against these definitions.

## Architecture

- `WritesString`: a text between quotes and the string that it writes, with every escape resolved
- `IsString`: a text between quotes, of which nothing but its extent is wanted, so that the numbers in
  its escapes need not make up characters
- `IsNumeral`: a number with its sign, fraction and exponent
- `Bracketed`: items between brackets, separated by commas; `IsElement` and `IsMember` are the items of
  a list and of an object, with the blanks that may stand around their parts
- `IsValue`: any value, of any depth
- `IsObject`: an object as the list of its members, the names read and the values still as texts
- `KnownOnce`, `Gives`: which members give the known names of a record, and what they give
- `Rearranges`: members in another order, with other unknown ones among them
-/

namespace RoleDaemon.Json

open Text

/-! ## §1 Blanks -/

/-- Nothing but blanks. -/
def IsGaps (cs : List Char) : Prop :=
  ∀ c ∈ cs, isGap c

theorem isGaps_nil : IsGaps [] := by
  simp [IsGaps]

/-! ## §2 Strings -/

/-- The characters that have an escape of one letter, with the letter in front. -/
def shortForms : List (Char × Char) :=
  [('"', '"'), ('\\', '\\'), ('/', '/'), ('b', Char.ofNat 8), ('f', Char.ofNat 12), ('n', '\n'),
    ('r', '\r'), ('t', '\t')]

/-- Four hexadecimal digits, of either case, that denote the number. -/
structure IsHex (n : Nat) (ds : List Char) : Prop where
  length : ds.length = 4
  digits : ∀ d ∈ ds, isDigitOf 16 d
  value : ofDigits 16 ds = n

/-- The first half of a pair of surrogates. -/
def IsHighSurrogate (n : Nat) : Prop :=
  0xD800 ≤ n ∧ n ≤ 0xDBFF

/-- The second half of a pair of surrogates. -/
def IsLowSurrogate (n : Nat) : Prop :=
  0xDC00 ≤ n ∧ n ≤ 0xDFFF

/-- How a character is written inside a string. -/
inductive WritesChar : Char → List Char → Prop where
  /-- The character itself; quotes, backslashes and control characters need an escape. -/
  | plain {c : Char} (hquote : c ≠ '"') (hbackslash : c ≠ '\\') (hprinting : 32 ≤ c.toNat) :
      WritesChar c [c]
  /-- An escape of one letter. -/
  | short {letter c : Char} (hform : (letter, c) ∈ shortForms) : WritesChar c ['\\', letter]
  /-- The number of the character. -/
  | number {n : Nat} {ds : List Char} (hdigits : IsHex n ds) (hhigh : ¬IsHighSurrogate n)
      (hlow : ¬IsLowSurrogate n) : WritesChar (Char.ofNat n) ('\\' :: 'u' :: ds)
  /-- A character with a larger number, as a pair of surrogates. -/
  | pair {high low : Nat} {ds es : List Char} (hfirst : IsHex high ds) (hsecond : IsHex low es)
      (hhigh : IsHighSurrogate high) (hlow : IsLowSurrogate low) :
      WritesChar (Char.ofNat ((high - 0xD800) * 0x400 + (low - 0xDC00) + 0x10000))
        ('\\' :: 'u' :: (ds ++ '\\' :: 'u' :: es))

/-- How the characters of a string are written, one after the other. -/
inductive WritesChars : List Char → List Char → Prop where
  | nil : WritesChars [] []
  | cons {c : Char} {text : List Char} {cs texts : List Char} (hfirst : WritesChar c text)
      (hrest : WritesChars cs texts) : WritesChars (c :: cs) (text ++ texts)

/-- A text between quotes that writes the string. -/
def WritesString (s : String) (text : List Char) : Prop :=
  ∃ body, WritesChars s.toList body ∧ text = '"' :: (body ++ ['"'])

/-- The inside of a string of which only the extent is wanted. -/
inductive IsStringBody : List Char → Prop where
  | nil : IsStringBody []
  | plain {c : Char} {cs : List Char} (hquote : c ≠ '"') (hbackslash : c ≠ '\\')
      (hprinting : 32 ≤ c.toNat) (hrest : IsStringBody cs) : IsStringBody (c :: cs)
  | short {letter c : Char} {cs : List Char} (hform : (letter, c) ∈ shortForms)
      (hrest : IsStringBody cs) : IsStringBody ('\\' :: letter :: cs)
  | number {n : Nat} {ds cs : List Char} (hdigits : IsHex n ds) (hrest : IsStringBody cs) :
      IsStringBody ('\\' :: 'u' :: (ds ++ cs))

/-- A text between quotes. -/
def IsString (text : List Char) : Prop :=
  ∃ body, IsStringBody body ∧ text = '"' :: (body ++ ['"'])

/-! ## §3 Words and Numbers -/

/-- The three words. -/
def words : List (List Char) :=
  ["null".toList, "true".toList, "false".toList]

/-- One digit or more. -/
structure IsDigits (ds : List Char) : Prop where
  nonempty : ds ≠ []
  digits : ∀ d ∈ ds, isDigit d

/-- The digits in front of the point: no zero stands in front of further digits. -/
structure IsWhole (ds : List Char) : Prop extends IsDigits ds where
  zero : ds.head? = some '0' → ds = ['0']

/-- The point with the digits behind it, or nothing. -/
def IsFraction (cs : List Char) : Prop :=
  cs = [] ∨ ∃ ds, IsDigits ds ∧ cs = '.' :: ds

/-- The exponent with its letter and its sign, or nothing. -/
def IsExponent (cs : List Char) : Prop :=
  cs = [] ∨ ∃ letter ∈ ['e', 'E'], ∃ sign ∈ [[], ['+'], ['-']], ∃ ds, IsDigits ds ∧
    cs = letter :: (sign ++ ds)

/-- A number of any size. -/
def IsNumeral (cs : List Char) : Prop :=
  ∃ sign ∈ [[], ['-']], ∃ whole fraction exponent, IsWhole whole ∧ IsFraction fraction ∧
    IsExponent exponent ∧ cs = sign ++ (whole ++ (fraction ++ exponent))

/-! ## §4 Lists and Objects -/

variable {α κ : Type}

/-- One item or more, with commas between them. -/
inductive Listed (IsItem : α → List Char → Prop) : List α → List Char → Prop where
  | one {a : α} {text : List Char} (hitem : IsItem a text) : Listed IsItem [a] text
  | cons {a : α} {text : List Char} {rest : List α} {texts : List Char} (hitem : IsItem a text)
      (hrest : Listed IsItem rest texts) : Listed IsItem (a :: rest) (text ++ ',' :: texts)

/-- Any number of items between two brackets. -/
inductive Bracketed (opening closing : Char) (IsItem : α → List Char → Prop) :
    List α → List Char → Prop where
  | empty {gaps : List Char} (hgaps : IsGaps gaps) :
      Bracketed opening closing IsItem [] (opening :: (gaps ++ [closing]))
  | filled {items : List α} {texts : List Char} (hitems : Listed IsItem items texts) :
      Bracketed opening closing IsItem items (opening :: (texts ++ [closing]))

/-- A value with blanks around it. -/
def IsElement (value text : List Char) : Prop :=
  ∃ before behind, IsGaps before ∧ IsGaps behind ∧ text = before ++ (value ++ behind)

/-- A key, a colon and a value, with blanks around each of them. -/
def IsMember (IsKey : κ → List Char → Prop) (member : κ × List Char) (text : List Char) : Prop :=
  ∃ before key between element, IsGaps before ∧ IsKey member.1 key ∧ IsGaps between ∧
    IsElement member.2 element ∧ text = before ++ (key ++ (between ++ ':' :: element))

/-- A value.  The items of a list or an object are texts that are values again. -/
inductive IsValue : List Char → Prop where
  | word {text : List Char} (hword : text ∈ words) : IsValue text
  | numeral {text : List Char} (hnumeral : IsNumeral text) : IsValue text
  | string {text : List Char} (hstring : IsString text) : IsValue text
  | list {values : List (List Char)} {text : List Char}
      (hlayout : Bracketed '[' ']' IsElement values text) (hvalues : ∀ v ∈ values, IsValue v) :
      IsValue text
  | object {members : List (Unit × List Char)} {text : List Char}
      (hlayout : Bracketed '\x7b' '\x7d' (IsMember fun _ => IsString) members text)
      (hvalues : ∀ m ∈ members, IsValue m.2) : IsValue text

/-! ## §5 Typed Values -/

/-- The members of an object in the order of writing: the names that the keys write, and the texts of
    the values. -/
abbrev Members := List (String × List Char)

/-- An object with the given members. -/
def IsObject (members : Members) (text : List Char) : Prop :=
  Bracketed '\x7b' '\x7d' (IsMember WritesString) members text

/-- The two truth values. -/
def WritesBool (b : Bool) (text : List Char) : Prop :=
  text = (toString b).toList

/-- A natural number in decimal digits. -/
def WritesNat (n : Nat) (text : List Char) : Prop :=
  text = decimal n

/-- A value, or `null` for none. -/
def WritesOption (Writes : α → List Char → Prop) : Option α → List Char → Prop
  | none, text => text = "null".toList
  | some a, text => Writes a text

/-- A list of values. -/
def WritesList (Writes : α → List Char → Prop) (as : List α) (text : List Char) : Prop :=
  ∃ values, Bracketed '[' ']' IsElement values text ∧ List.Forall₂ Writes as values

/-! ## §6 Objects with Known Members -/

/-- The members give the value under the name, or nothing under it. -/
def Gives (Writes : α → List Char → Prop) (members : Members) (name : String) : Option α → Prop
  | none => name ∉ members.map Prod.fst
  | some a => ∃ text, (name, text) ∈ members ∧ Writes a text

/-- Each of the known names is given at most once, and under every other name stands some value. -/
structure KnownOnce (names : List String) (members : Members) : Prop where
  once : ((members.map Prod.fst).filter (· ∈ names)).Nodup
  unknown : ∀ m ∈ members, m.1 ∉ names → IsValue m.2

/-- The later members give the known names as the earlier ones do, in any order.  Members of other names
may be added, removed and moved. -/
structure Rearranges (names : List String) (earlier later : Members) : Prop where
  known : (earlier.filter (·.1 ∈ names)).Perm (later.filter (·.1 ∈ names))
  unknown : ∀ m ∈ later, m.1 ∉ names → IsValue m.2

section

variable {Writes : α → List Char → Prop} {members earlier later : Members} {names : List String}
  {name : String} {value? : Option α}

theorem Gives.mem (h : Gives Writes members name value?) (hvalue : value? ≠ none) :
    name ∈ members.map Prod.fst := by
  cases value? with
  | none => exact absurd rfl hvalue
  | some a =>
    obtain ⟨text, hmem, -⟩ := h
    exact List.mem_map.2 ⟨_, hmem, rfl⟩

/-- Where a name is given once, what stands under it writes the value. -/
theorem Gives.written (h : Gives Writes members name value?) (hknown : KnownOnce names members)
    (hname : name ∈ names) {text : List Char} (hmem : (name, text) ∈ members) :
    ∃ a, value? = some a ∧ Writes a text := by
  cases value? with
  | none => exact absurd (List.mem_map.2 ⟨_, hmem, rfl⟩) h
  | some a =>
    -- the name is given once, so the member that writes the value is this one
    obtain ⟨text', hmem', hwrites⟩ := h
    have honce : ((members.filter (·.1 ∈ names)).map Prod.fst).Nodup := by
      simpa [List.filter_map, Function.comp_def] using hknown.once
    have hsame := List.inj_on_of_nodup_map honce
      (List.mem_filter.2 ⟨hmem, by simpa using hname⟩)
      (List.mem_filter.2 ⟨hmem', by simpa using hname⟩) rfl
    exact ⟨a, rfl, (Prod.mk.inj hsame).2 ▸ hwrites⟩

theorem KnownOnce.rearranged (h : KnownOnce names earlier) (hlater : Rearranges names earlier later) :
    KnownOnce names later := by
  have hfilter : ∀ members : Members, (members.map Prod.fst).filter (· ∈ names) =
      (members.filter (·.1 ∈ names)).map Prod.fst := by
    simp [List.filter_map, Function.comp_def]
  refine ⟨?_, hlater.unknown⟩
  rw [hfilter]
  exact (hlater.known.map Prod.fst).nodup_iff.1 (hfilter earlier ▸ h.once)

/-- What is given under a known name is given by the rearranged members too. -/
theorem Gives.rearranged (h : Gives Writes earlier name value?)
    (hlater : Rearranges names earlier later) (hname : name ∈ names) :
    Gives Writes later name value? := by
  -- the members of known names are the same ones in another order
  have hmem : ∀ text, (name, text) ∈ earlier ↔ (name, text) ∈ later := by
    intro text
    simpa [hname] using hlater.known.mem_iff (a := (name, text))
  cases value? with
  | none =>
    intro hgiven
    obtain ⟨⟨_, text⟩, htext, rfl⟩ := List.mem_map.1 hgiven
    exact h (List.mem_map.2 ⟨_, (hmem text).2 htext, rfl⟩)
  | some a =>
    obtain ⟨text, htext, hwrites⟩ := h
    exact ⟨text, (hmem text).1 htext, hwrites⟩

end

end RoleDaemon.Json

import RoleDaemon.Json.Value
import RoleDaemon.Proofs.Json.Scanning

/-!
# What Is Written Is Well Formed

The compact text of a value is a JSON value, and the parts of the text write the parts of the value.

## Architecture

- `writesChar_escape`, `writesString_quoted`: the text of a string writes the string
- `isNumeral_intChars`: the text of an integer is a number
- `bracketed_chars`, `isObject_chars`: the text of a list and of an object, with their items
- `gives_some`, `gives_none`, `knownOnce_chars`: what the members of a written object give

Main statements:
- `isValue_chars`: the text of every value is a value
-/

namespace RoleDaemon.Json

open Text

/-! ## §1 Strings -/

theorem isHex_padded {n : Nat} (hn : n < 32) : IsHex n (padded 4 (hex n)) := by
  have hall : ∀ n < 32, (padded 4 (hex n)).length = 4 ∧
      (padded 4 (hex n)).all (isDigitOf 16) ∧ ofDigits 16 (padded 4 (hex n)) = n := by decide
  obtain ⟨hlength, hdigits, hvalue⟩ := hall n hn
  exact ⟨hlength, List.all_eq_true.1 hdigits, hvalue⟩

/-- What is written for a character inside a string writes the character. -/
theorem writesChar_escape (c : Char) : WritesChar c (escape c) := by
  have hnumber : ∀ n, c.toNat = n → c = Char.ofNat n := fun n hn => by rw [← hn, Char.ofNat_toNat]
  unfold escape
  split_ifs with hquote hbackslash hbackspace hfeed hline hreturn htab hcontrol
  · rw [hquote]
    exact .short (by decide)
  · rw [hbackslash]
    exact .short (by decide)
  · rw [hnumber 8 hbackspace]
    exact .short (by decide)
  · rw [hnumber 12 hfeed]
    exact .short (by decide)
  · rw [hline]
    exact .short (by decide)
  · rw [hreturn]
    exact .short (by decide)
  · rw [htab]
    exact .short (by decide)
  · -- the other control characters are written by their numbers, which are below the surrogates
    have hwrites : WritesChar (Char.ofNat c.toNat) ('\\' :: 'u' :: padded 4 (hex c.toNat)) := by
      refine .number (isHex_padded hcontrol) ?_ ?_
      · unfold IsHighSurrogate
        omega
      · unfold IsLowSurrogate
        omega
    rwa [Char.ofNat_toNat] at hwrites
  · exact .plain hquote hbackslash (by omega)

theorem writesChars_flatMap (cs : List Char) : WritesChars cs (cs.flatMap escape) := by
  induction cs with
  | nil => exact .nil
  | cons c cs ih => exact .cons (writesChar_escape c) ih

/-- The text of a string writes the string. -/
theorem writesString_quoted (s : String) : WritesString s (quoted s) :=
  ⟨_, writesChars_flatMap s.toList, rfl⟩

/-- What writes a character may stand inside a string of which only the extent is wanted. -/
theorem WritesChar.isStringBody {c : Char} {text rest : List Char} (h : WritesChar c text)
    (hrest : IsStringBody rest) : IsStringBody (text ++ rest) := by
  cases h with
  | plain hquote hbackslash hprinting => exact .plain hquote hbackslash hprinting hrest
  | short hform => exact .short hform hrest
  | number hdigits _ _ => exact .number hdigits hrest
  | pair hfirst hsecond _ _ =>
    simpa using IsStringBody.number hfirst (.number hsecond hrest)

theorem WritesChars.isStringBody {cs body : List Char} (h : WritesChars cs body) :
    IsStringBody body := by
  induction h with
  | nil => exact .nil
  | cons hfirst _ ih => exact hfirst.isStringBody ih

theorem WritesString.isString {s : String} {text : List Char} (h : WritesString s text) :
    IsString text := by
  obtain ⟨body, hbody, rfl⟩ := h
  exact ⟨body, hbody.isStringBody, rfl⟩

/-! ## §2 Numbers -/

theorem isWhole_decimal (n : Nat) : IsWhole (decimal n) where
  nonempty := Nat.toDigits_ne_nil
  digits := fun _ hd => isDigitOf_of_mem_toDigits (by decide) (by decide) hd
  zero := by
    obtain ⟨c, tail, hdecimal, -, hzero⟩ := decimal_cons n
    rw [hdecimal]
    intro hhead
    obtain rfl : c = '0' := by simpa using hhead
    rw [hzero rfl]

/-- The text of an integer is a number. -/
theorem isNumeral_intChars (n : Int) : IsNumeral (intChars n) := by
  cases n with
  | ofNat n =>
    exact ⟨[], by simp, decimal n, [], [], isWhole_decimal n, .inl rfl, .inl rfl, by simp [intChars]⟩
  | negSucc n =>
    exact ⟨['-'], by simp, decimal (n + 1), [], [], isWhole_decimal (n + 1), .inl rfl, .inl rfl,
      by simp [intChars]⟩

/-! ## §3 Lists and Objects -/

theorem isElement_self (value : List Char) : IsElement value value :=
  ⟨[], [], isGaps_nil, isGaps_nil, by simp⟩

theorem listed_elementChars (v : Json) (elements : List Json) :
    Listed IsElement ((v :: elements).map chars) (elementChars (v :: elements)) := by
  induction elements generalizing v with
  | nil => exact .one (isElement_self _)
  | cons w elements ih => exact .cons (isElement_self _) (ih w)

/-- The text of a list, with the texts of its elements. -/
theorem bracketed_chars (elements : List Json) :
    Bracketed '[' ']' IsElement (elements.map chars) (chars (.arr elements)) := by
  show Bracketed '[' ']' IsElement (elements.map chars) ('[' :: (elementChars elements ++ [']']))
  cases elements with
  | nil => exact .empty isGaps_nil
  | cons v elements => exact .filled (listed_elementChars v elements)

theorem listed_memberChars (m : String × Json) (members : List (String × Json)) :
    Listed (IsMember WritesString) ((m :: members).map fun m => (m.1, chars m.2))
      (memberChars (m :: members)) := by
  have hmember : ∀ m : String × Json,
      IsMember WritesString (m.1, chars m.2) (quoted m.1 ++ ':' :: chars m.2) := fun m =>
    ⟨[], quoted m.1, [], chars m.2, isGaps_nil, writesString_quoted m.1, isGaps_nil,
      isElement_self _, rfl⟩
  induction members generalizing m with
  | nil => exact .one (hmember m)
  | cons next members ih => simpa [memberChars] using Listed.cons (hmember m) (ih next)

/-- The text of an object, with the texts of its values. -/
theorem isObject_chars (members : List (String × Json)) :
    IsObject (members.map fun m => (m.1, chars m.2)) (chars (.obj members)) := by
  show Bracketed '\x7b' '\x7d' (IsMember WritesString) _ ('\x7b' :: (memberChars members ++ ['\x7d']))
  cases members with
  | nil => exact .empty isGaps_nil
  | cons m members => exact .filled (listed_memberChars m members)

/-! ## §4 Values -/

theorem Listed.map {α β : Type} {IsItem : α → List Char → Prop} {IsItem' : β → List Char → Prop}
    {f : α → β} (hitem : ∀ a text, IsItem a text → IsItem' (f a) text) {items : List α}
    {texts : List Char} (h : Listed IsItem items texts) : Listed IsItem' (items.map f) texts := by
  induction h with
  | one h => exact .one (hitem _ _ h)
  | cons h _ ih => exact .cons (hitem _ _ h) ih

/-- An object whose members are values is a value. -/
theorem IsObject.isValue {members : Members} {text : List Char} (h : IsObject members text)
    (hvalues : ∀ m ∈ members, IsValue m.2) : IsValue text := by
  -- of the keys only the extent is kept
  have hkeys : ∀ (m : String × List Char) (text : List Char), IsMember WritesString m text →
      IsMember (fun _ => IsString) ((), m.2) text := by
    rintro m text ⟨before, key, between, element, hbefore, hkey, hbetween, helement, rfl⟩
    exact ⟨before, key, between, element, hbefore, hkey.isString, hbetween, helement, rfl⟩
  have hlayout : Bracketed '\x7b' '\x7d' (IsMember fun _ => IsString)
      (members.map fun m => ((), m.2)) text := by
    cases h with
    | empty hgaps => exact .empty hgaps
    | filled hlisted => exact .filled (hlisted.map hkeys)
  refine .object hlayout fun m hm => ?_
  obtain ⟨given, hgiven, rfl⟩ := List.mem_map.1 hm
  exact hvalues given hgiven

/-- **What is written is well formed.**  The compact text of every value is a value. -/
theorem isValue_chars : (v : Json) → IsValue (chars v)
  | .null => .word (by decide)
  | .bool true => .word (by decide)
  | .bool false => .word (by decide)
  | .int n => .numeral (show IsNumeral (intChars n) from isNumeral_intChars n)
  | .str s => .string (show IsString (quoted s) from (writesString_quoted s).isString)
  | .arr elements => by
    refine .list (bracketed_chars elements) fun text htext => ?_
    obtain ⟨v, hv, rfl⟩ := List.mem_map.1 htext
    exact isValue_chars v
  | .obj members => by
    refine (isObject_chars members).isValue fun m hm => ?_
    obtain ⟨⟨key, v⟩, hv, rfl⟩ := List.mem_map.1 hm
    exact isValue_chars v
termination_by v => sizeOf v
decreasing_by
  · have := List.sizeOf_lt_of_mem hv
    simp only [Json.arr.sizeOf_spec]
    omega
  · have := List.sizeOf_lt_of_mem hv
    simp only [Prod.mk.sizeOf_spec, Json.obj.sizeOf_spec] at this ⊢
    omega

/-! ## §5 Typed Values -/

theorem writesBool_chars (b : Bool) : WritesBool b (chars (.bool b)) := by
  cases b <;> rfl

theorem writesNat_chars (n : Nat) : WritesNat n (chars (.nat n)) := rfl

theorem writesString_chars (s : String) : WritesString s (chars (.str s)) := by
  show WritesString s (quoted s)
  exact writesString_quoted s

theorem writesOption_chars (s? : Option String) :
    WritesOption WritesString s? (chars (.ofOption (s?.map .str))) := by
  cases s? with
  | none => rfl
  | some s => exact writesString_chars s

theorem writesList_chars (strings : List String) :
    WritesList WritesString strings (chars (.arr (strings.map .str))) := by
  refine ⟨_, bracketed_chars _, ?_⟩
  rw [List.map_map, List.forall₂_map_right_iff, List.forall₂_same]
  exact fun s _ => writesString_chars s

/-- A setting is given when its member is there. -/
theorem gives_some {α : Type} {Writes : α → List Char → Prop} {members : List (String × Json)}
    {name : String} {a : α} {v : Json} (hmem : (name, v) ∈ members) (hwrites : Writes a (chars v)) :
    Gives Writes (members.map fun m => (m.1, chars m.2)) name (some a) :=
  ⟨chars v, List.mem_map.2 ⟨_, hmem, rfl⟩, hwrites⟩

/-- A setting is not given when no member has its name. -/
theorem gives_none {α : Type} {Writes : α → List Char → Prop} {members : List (String × Json)}
    {name : String} (hname : name ∉ members.map Prod.fst) :
    Gives Writes (members.map fun m => (m.1, chars m.2)) name none := by
  rw [Gives, List.map_map]
  exact hname

/-- Members of which no two have the same known name. -/
theorem knownOnce_chars {members : List (String × Json)} {names : List String}
    (honce : ((members.map Prod.fst).filter (· ∈ names)).Nodup) :
    KnownOnce names (members.map fun m => (m.1, chars m.2)) where
  once := by
    rw [List.map_map]
    exact honce
  unknown := by
    intro m hm _
    obtain ⟨given, -, rfl⟩ := List.mem_map.1 hm
    exact isValue_chars given.2

end RoleDaemon.Json

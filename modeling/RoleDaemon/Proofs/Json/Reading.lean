import RoleDaemon.Json.Read
import RoleDaemon.Proofs.Json.Scanning

/-!
# Reading What Is Well Formed

A reader takes a value of its shape off the head of any text, whatever blanks stand before it and
whatever follows it.  A record is read from an object in any order of its members, with any unknown
members between them.

## Architecture

- `Takes`: what it means that a reader reads a value from a text
- `takes_unsigned`, `takes_bool`, `takes_string`, `takes_optional`, `takes_list`: the plain shapes
- `Record.Accepts`: what a member of an object may be, and what it does to the record
- `Record.members_listed`: the members one after the other, by induction on their layout
- `foldl_field`: what the members together do to one field of the record

Main statements:
- `Record.readAt_object`: a record is read from an object
- `Record.document_object`: a record is read from a text that is an object with blanks around it
-/

namespace RoleDaemon.Json

open Text

variable {α : Type}

/-! ## §1 Readers -/

/-- The reader reads the value from the text, whatever blanks stand before it and whatever follows
it. -/
def Takes (read : Reader α) (text : List Char) (a : α) : Prop :=
  ∀ cs rest, EndsValue rest → skipBlanks cs = skipBlanks (text ++ rest) → read cs = .ok (a, rest)

/-- A value with its blanks: those behind it are left. -/
theorem Takes.element {read : Reader α} {value before behind : List Char} {a : α}
    (h : Takes read value a) (hbefore : IsGaps before) (hbehind : IsGaps behind)
    {cs rest : List Char} (hrest : EndsValue rest)
    (hcs : skipBlanks cs = skipBlanks (before ++ (value ++ behind) ++ rest)) :
    read cs = .ok (a, behind ++ rest) := by
  refine h cs _ (hrest.gaps hbehind) ?_
  rw [hcs, List.append_assoc, List.append_assoc, skipBlanks_append hbefore]

/-- A text behind which blanks may stand starts as it does without them. -/
theorem skipBlanks_text {c : Char} (hgap : isGap c = false) {cs tail rest : List Char}
    (hcs : skipBlanks cs = skipBlanks (c :: tail ++ rest)) : skipBlanks cs = c :: (tail ++ rest) := by
  rw [hcs, List.cons_append, skipBlanks_cons hgap]

namespace Reader

theorem takes_unsigned (bound : Nat) (expected : String) {n : Nat} (hbound : bound ≤ maxUnsigned)
    (hn : n ≤ bound) {text : List Char} (htext : WritesNat n text) :
    Takes (unsigned bound expected) text n := by
  obtain rfl : text = decimal n := htext
  intro cs rest hrest hcs
  obtain ⟨c, tail, hdecimal, hdigit, -⟩ := decimal_cons n
  have hnumber := number_decimal (Nat.le_trans hn hbound) hrest
  obtain ⟨hgap, hplain⟩ := isDigit_plain hdigit
  rw [hdecimal] at hcs hnumber
  have hminus : c ≠ '-' := by
    rintro rfl
    exact absurd hdigit (by decide)
  rw [List.cons_append] at hnumber
  rw [unsigned, skipBlanks_text hgap hcs]
  simp [hminus, hdigit, hnumber, bounded, hn, Except.map]

theorem takes_uint8 (n : UInt8) {text : List Char} (htext : WritesNat n.toNat text) :
    Takes uint8 text n := by
  intro cs rest hrest hcs
  have hn := takes_unsigned (UInt8.size - 1) "u8" (by decide) (Nat.le_pred_of_lt n.toNat_lt)
    htext cs rest hrest hcs
  rw [uint8, hn]
  simp [Except.map]

theorem takes_uint16 (n : UInt16) {text : List Char} (htext : WritesNat n.toNat text) :
    Takes uint16 text n := by
  intro cs rest hrest hcs
  have hn := takes_unsigned (UInt16.size - 1) "u16" (by decide)
    (Nat.le_pred_of_lt n.toNat_lt) htext cs rest hrest hcs
  rw [uint16, hn]
  simp [Except.map]

theorem takes_uint64 (n : UInt64) {text : List Char} (htext : WritesNat n.toNat text) :
    Takes uint64 text n := by
  intro cs rest hrest hcs
  have hn := takes_unsigned (UInt64.size - 1) "u64" (by decide)
    (Nat.le_pred_of_lt n.toNat_lt) htext cs rest hrest hcs
  rw [uint64, hn]
  simp [Except.map]

theorem takes_bool {b : Bool} {text : List Char} (htext : WritesBool b text) : Takes bool text b := by
  intro cs rest _ hcs
  cases b with
  | true =>
    obtain rfl : text = ['t', 'r', 'u', 'e'] := htext
    rw [bool, skipBlanks_text (by decide) hcs]
    rfl
  | false =>
    obtain rfl : text = ['f', 'a', 'l', 's', 'e'] := htext
    rw [bool, skipBlanks_text (by decide) hcs]
    rfl

theorem takes_string (expected : String) {s : String} {text : List Char}
    (htext : WritesString s text) : Takes (string expected) text s := by
  obtain ⟨body, hbody, rfl⟩ := htext
  intro cs rest _ hcs
  have hstring := string_of_writes hbody rest
  rw [string, skipBlanks_text (by decide) hcs]
  simpa using hstring

theorem takes_parsed (expected : String) {parse : String → Except String α} {s : String} {a : α}
    {text : List Char} (htext : WritesString s text) (hparse : parse s = .ok a) :
    Takes (parsed expected parse) text a := by
  intro cs rest hrest hcs
  rw [parsed, takes_string expected htext cs rest hrest hcs]
  simp only [hparse]

/-- A value that does not start like `null`, or `null` for none. -/
theorem takes_optional {Writes : α → List Char → Prop} {read : Reader α}
    (hread : ∀ a text, Writes a text → Takes read text a ∧ StartsWithout 'n' text) {a? : Option α}
    {text : List Char} (htext : WritesOption Writes a? text) : Takes (optional read) text a? := by
  intro cs rest hrest hcs
  cases a? with
  | none =>
    obtain rfl : text = ['n', 'u', 'l', 'l'] := htext
    rw [optional, skipBlanks_text (by decide) hcs]
    rfl
  | some a =>
    -- one character is enough to tell the value from `null`
    obtain ⟨htakes, hstarts⟩ := hread a text htext
    obtain ⟨c, tail, hhead, hne⟩ := hstarts rest
    have hvalue : read (c :: tail) = .ok (a, rest) :=
      htakes _ rest hrest (by rw [← hhead, skipBlanks_idem])
    rw [optional, hcs, hhead]
    simp [hne, hvalue, Except.map]

/-! ## §2 Lists -/

theorem nextElement_close {gaps : List Char} (hgaps : IsGaps gaps) (first : Bool)
    (rest : List Char) : nextElement first (gaps ++ ']' :: rest) = .ok none := by
  rw [nextElement, skipBlanks_append hgaps, skipBlanks_cons (by decide)]
  simp

theorem endList_close {gaps : List Char} (hgaps : IsGaps gaps) (rest : List Char) :
    endList (gaps ++ ']' :: rest) = .ok ((), rest) := by
  rw [endList, skipBlanks_append hgaps, skipBlanks_cons (by decide)]
  simp

theorem nextElement_first {text : List Char} (h : StartsWithout ']' text) (rest : List Char) :
    nextElement true (text ++ rest) = .ok (some (skipBlanks (text ++ rest))) := by
  obtain ⟨c, cs, hblanks, hne⟩ := h rest
  rw [nextElement, hblanks]
  simp [hne]

theorem nextElement_comma {gaps text : List Char} (hgaps : IsGaps gaps)
    (h : StartsWithout ']' text) (rest : List Char) :
    nextElement false (gaps ++ ',' :: (text ++ rest)) = .ok (some (skipBlanks (text ++ rest))) := by
  obtain ⟨c, cs, hblanks, hne⟩ := h rest
  rw [nextElement, skipBlanks_append hgaps, skipBlanks_cons (by decide)]
  simp [hblanks, hne]

theorem elements_end {read : Reader α} (fuel : Nat) {first : Bool} (taken : List α)
    {gaps : List Char} (hgaps : IsGaps gaps) (rest : List Char) :
    elements read (fuel + 1) first taken (gaps ++ ']' :: rest) = .ok (taken.reverse, rest) := by
  simp [elements, nextElement_close hgaps, endList_close hgaps, Except.map]

theorem elements_step {read : Reader α} (fuel : Nat) {first : Bool} (taken : List α) {a : α}
    {cs element rest : List Char} (hnext : nextElement first cs = .ok (some element))
    (hread : read element = .ok (a, rest)) :
    elements read (fuel + 1) first taken cs = elements read fuel false (a :: taken) rest := by
  simp [elements, hnext, hread]

/-- The elements up to behind the closing bracket, once the first one of them is found. -/
theorem elements_listed {read : Reader α} {values : List (List Char)} {texts : List Char}
    (hlisted : Listed IsElement values texts) {as : List α}
    (hvalues : List.Forall₂ (fun a v => Takes read v a) as values)
    (hstarts : ∀ v ∈ values, StartsWithout ']' v) (fuel : Nat) (hfuel : values.length < fuel)
    {first : Bool} (taken : List α) {cs : List Char} (rest : List Char)
    (hnext : nextElement first cs = .ok (some (skipBlanks (texts ++ ']' :: rest)))) :
    elements read fuel first taken cs = .ok (taken.reverse ++ as, rest) := by
  induction hlisted generalizing as fuel first taken cs with
  | @one v text hitem =>
    obtain ⟨a, _, hfirst, hnone, rfl⟩ := List.forall₂_cons_right_iff.1 hvalues
    obtain rfl := List.forall₂_nil_right_iff.1 hnone
    -- one step for the element, and one for the bracket
    obtain ⟨fuel, rfl⟩ : ∃ n, fuel = n + 1 + 1 := ⟨fuel - 2, by simp at hfuel; omega⟩
    obtain ⟨before, behind, hbefore, hbehind, rfl⟩ := hitem
    have hvalue := hfirst.element hbefore hbehind
      (endsValue_cons (c := ']') (.inr (by decide)) rest) (skipBlanks_idem _)
    rw [elements_step _ _ hnext hvalue, elements_end _ _ hbehind, List.reverse_cons]
  | @cons v text values texts hitem hrest ih =>
    obtain ⟨a, as, hfirst, hlater, rfl⟩ := List.forall₂_cons_right_iff.1 hvalues
    obtain ⟨fuel, rfl⟩ := Nat.exists_eq_add_one_of_ne_zero (Nat.ne_zero_of_lt hfuel)
    obtain ⟨before, behind, hbefore, hbehind, rfl⟩ := hitem
    have hlaterStarts : ∀ v ∈ values, StartsWithout ']' v :=
      fun v hv => hstarts v (List.mem_cons_of_mem _ hv)
    have hgoesOn := nextElement_comma hbehind
      (.listed hrest fun v hv _ helement => (hlaterStarts v hv).element helement) (']' :: rest)
    rw [List.append_assoc, List.cons_append] at hnext
    have hvalue := hfirst.element hbefore hbehind
      (endsValue_cons (c := ',') (.inr (by decide)) (texts ++ ']' :: rest)) (skipBlanks_idem _)
    rw [elements_step _ _ hnext hvalue, ih hlater hlaterStarts fuel (by simpa using hfuel) _ hgoesOn]
    simp

/-- No more values than characters. -/
theorem length_le_of_listed {β : Type} {IsItem : β → List Char → Prop} {items : List β}
    {texts : List Char} (hlisted : Listed IsItem items texts) : items.length ≤ texts.length + 1 := by
  induction hlisted with
  | one hitem => simp
  | cons hitem hrest ih =>
    simp only [List.length_cons, List.length_append]
    omega

/-- A list whose elements the reader reads. -/
theorem takes_list {Writes : α → List Char → Prop} {read : Reader α} (expected : String)
    (hread : ∀ a text, Writes a text → Takes read text a ∧ StartsWithout ']' text) {as : List α}
    {text : List Char} (htext : WritesList Writes as text) : Takes (list expected read) text as := by
  obtain ⟨values, hlayout, hwrites⟩ := htext
  intro cs rest _ hcs
  cases hlayout with
  | @empty gaps hgaps =>
    obtain rfl := List.forall₂_nil_right_iff.1 hwrites
    rw [list, skipBlanks_text (by decide) hcs]
    simpa using elements_end _ [] hgaps rest
  | @filled _ texts hlisted =>
    have hvalues : List.Forall₂ (fun a v => Takes read v a) as values :=
      hwrites.imp fun a v h => (hread a v h).1
    have hstarts : ∀ v ∈ values, StartsWithout ']' v := by
      intro v hv
      obtain ⟨i, hi, rfl⟩ := List.getElem_of_mem hv
      exact (hread _ _ (hwrites.get (hwrites.length_eq ▸ hi) hi)).2
    have hfirst := nextElement_first
      (.listed hlisted fun v hv _ helement => (hstarts v hv).element helement) (']' :: rest)
    -- an element has at least one character, so the length of the text is fuel enough
    have hfuel : values.length < (texts ++ ']' :: rest).length + 1 := by
      have hlength := length_le_of_listed hlisted
      rw [List.length_append, List.length_cons]
      omega
    have hall := elements_listed hlisted hvalues hstarts _ hfuel [] rest hfirst
    rw [list, skipBlanks_text (by decide) hcs]
    simpa using hall

end Reader

/-! ## §3 Records -/

namespace Record

variable {σ : Type} {record : Record σ}

/-- The names of the fields. -/
def names (record : Record σ) : List String :=
  record.fields.map (·.name)

/-- The fields that the members give, in the order of writing. -/
def given (record : Record σ) (members : Members) : List String :=
  (members.map Prod.fst).filter (· ∈ record.names)

/-- What the members do to a record, one after the other, when each one does what its name says. -/
def applied (effect : String → σ → σ) (members : Members) (s : σ) : σ :=
  members.foldl (fun s m => effect m.1 s) s

/-- A member that the record accepts, and what it does to it: any value under a name that is no
field's, which does nothing, or a value that the reader of the field reads. -/
inductive Accepts (record : Record σ) (effect : String → σ → σ) : String × List Char → Prop where
  | unknown {name : String} {value : List Char} (hname : name ∉ record.names)
      (hvalue : IsValue value) (hkeeps : ∀ s, effect name s = s) : Accepts record effect (name, value)
  | known {field : Field σ} {value : List Char}
      (hfield : record.fields.find? (·.name = field.name) = some field)
      (htakes : ∀ s, Takes (field.read s) value (effect field.name s)) :
      Accepts record effect (field.name, value)

/-- The fields seen once a member of the given name is read. -/
def seenWith (record : Record σ) (name : String) (seen : List String) : List String :=
  if name ∈ record.names then name :: seen else seen

/-- The members behind those that were read: they give no field twice, and all fields without a default
that were not seen. -/
structure Awaits (record : Record σ) (seen : List String) (members : Members) : Prop where
  once : (record.given members).Nodup
  fresh : ∀ name ∈ record.given members, name ∉ seen
  complete : ∀ f ∈ record.fields, f.required → f.name ∈ seen ∨ f.name ∈ members.map Prod.fst

theorem Awaits.new {seen : List String} {m : String × List Char} {ms : Members}
    (h : record.Awaits seen (m :: ms)) (hname : m.1 ∈ record.names) : m.1 ∉ seen :=
  h.fresh m.1 (by simp [given, hname])

/-- What is awaited once one more member is read. -/
theorem Awaits.step {seen : List String} {m : String × List Char} {ms : Members}
    (h : record.Awaits seen (m :: ms)) : record.Awaits (record.seenWith m.1 seen) ms := by
  have hcomplete : ∀ f ∈ record.fields, f.required →
      f.name ∈ record.seenWith m.1 seen ∨ f.name ∈ ms.map Prod.fst := by
    intro f hf hrequired
    have hname : f.name ∈ record.names := List.mem_map.2 ⟨f, hf, rfl⟩
    rcases h.complete f hf hrequired with hseen | hgiven
    · exact .inl (by unfold seenWith; split <;> simp [hseen])
    · rcases List.mem_cons.1 hgiven with heq | hlater
      · exact .inl (by simp [seenWith, ← heq, hname])
      · exact .inr hlater
  by_cases hname : m.1 ∈ record.names
  · -- the field has been seen now, and is not given again
    have hgiven : record.given (m :: ms) = m.1 :: record.given ms := by simp [given, hname]
    have honce := hgiven ▸ h.once
    have hfresh := hgiven ▸ h.fresh
    refine ⟨(List.nodup_cons.1 honce).2, fun name hmem => ?_, hcomplete⟩
    have hother : name ≠ m.1 := fun heq => (List.nodup_cons.1 honce).1 (heq ▸ hmem)
    simpa [seenWith, hname, hother] using hfresh name (List.mem_cons_of_mem _ hmem)
  · have hgiven : record.given (m :: ms) = record.given ms := by simp [given, hname]
    exact ⟨hgiven ▸ h.once, by simpa [seenWith, hname] using hgiven ▸ h.fresh, hcomplete⟩

/-- Nothing is awaited at the end. -/
theorem Awaits.seen {seen : List String} (h : record.Awaits seen []) :
    ∀ f ∈ record.fields, f.required → f.name ∈ seen :=
  fun f hf hrequired => (h.complete f hf hrequired).resolve_right (by simp)

theorem nextKey_close {gaps : List Char} (hgaps : IsGaps gaps) (first : Bool) (rest : List Char) :
    nextKey first (gaps ++ '\x7d' :: rest) = .ok none := by
  rw [nextKey, skipBlanks_append hgaps, skipBlanks_cons (by decide)]
  simp

theorem endObject_close {gaps : List Char} (hgaps : IsGaps gaps) (rest : List Char) :
    endObject (gaps ++ '\x7d' :: rest) = .ok ((), rest) := by
  rw [endObject, skipBlanks_append hgaps, skipBlanks_cons (by decide)]
  simp

/-- Behind a comma the next key is looked for as at the beginning. -/
theorem nextKey_comma {gaps text : List Char} (hgaps : IsGaps gaps)
    (h : StartsWithout '\x7d' text) (rest : List Char) :
    nextKey false (gaps ++ ',' :: (text ++ rest)) = nextKey true (text ++ rest) := by
  obtain ⟨c, cs, hblanks, hne⟩ := h rest
  rw [nextKey, nextKey, skipBlanks_append hgaps, skipBlanks_cons (by decide)]
  simp [hblanks, hne]

theorem colon_append {gaps : List Char} (hgaps : IsGaps gaps) (rest : List Char) :
    colon (gaps ++ ':' :: rest) = .ok ((), rest) := by
  rw [colon, skipBlanks_append hgaps, skipBlanks_cons (by decide)]
  simp

theorem startsWithout_member {m : String × List Char} {text : List Char}
    (hmember : IsMember WritesString m text) : StartsWithout '\x7d' text := by
  obtain ⟨before, key, between, element, hbefore, ⟨body, -, rfl⟩, -, -, rfl⟩ := hmember
  exact ((startsWithout_cons (by decide) (by decide) _).append _).gaps hbefore

/-- A member is read from behind the opening quote of its key on, up to the blanks behind its value. -/
theorem member_append {effect : String → σ → σ} {m : String × List Char} {text : List Char}
    (hmember : IsMember WritesString m text) (haccepts : record.Accepts effect m) :
    ∃ behind, IsGaps behind ∧ ∀ rest, EndsValue rest →
      ∃ inside, nextKey true (text ++ rest) = .ok (some inside) ∧
        ∀ seen s, (m.1 ∈ record.names → m.1 ∉ seen) → record.member seen s inside =
          .ok (if m.1 ∈ record.names then some m.1 else none, effect m.1 s, behind ++ rest) := by
  obtain ⟨before, key, middle, element, hbefore, ⟨body, hbody, rfl⟩, hmiddle, helement, rfl⟩ :=
    hmember
  have hkey : ∀ rest,
      nextKey true (before ++ ('"' :: (body ++ ['"']) ++ (middle ++ ':' :: element)) ++ rest) =
        .ok (some (body ++ '"' :: (middle ++ ':' :: (element ++ rest)))) := by
    intro rest
    rw [List.append_assoc, nextKey, skipBlanks_append hbefore, List.cons_append, List.cons_append,
      skipBlanks_cons (by decide)]
    simp
  -- behind the colon a value that is unknown is passed over, and a known one is read
  obtain ⟨left, behind, hleft, hbehind, rfl⟩ := helement
  refine ⟨behind, hbehind, fun rest hrest => ⟨_, hkey rest, fun seen s hseen => ?_⟩⟩
  cases haccepts with
  | @unknown name value hname hvalue hkeeps =>
    have hfield : record.fields.find? (·.name = name) = none := by
      rw [List.find?_eq_none]
      exact fun f hf hequal => hname (List.mem_map.2 ⟨f, hf, of_decide_eq_true hequal⟩)
    have hskip := skipValue_append hleft hvalue (hrest.gaps hbehind)
    simp [member, between, bind, Except.bind, string_of_writes hbody, hfield, colon_append hmiddle,
      hskip, inField, hname, hkeeps]
  | @known field value hfield htakes =>
    have hname : field.name ∈ record.names :=
      List.mem_map.2 ⟨field, List.mem_of_find?_eq_some hfield, rfl⟩
    have hnew : field.name ∉ seen := hseen hname
    have hvalue := (htakes s).element hleft hbehind hrest rfl
    rw [List.append_assoc, List.append_assoc] at hvalue
    simp [member, between, bind, Except.bind, string_of_writes hbody, hfield, colon_append hmiddle,
      inField, hname, hnew, hvalue]

theorem members_end {gaps : List Char} (hgaps : IsGaps gaps) (fuel : Nat) (first : Bool)
    {seen : List String} (hrequired : ∀ f ∈ record.fields, f.required → f.name ∈ seen) (s : σ)
    (rest : List Char) :
    record.members (fuel + 1) first seen s (gaps ++ '\x7d' :: rest) = .ok (s, rest) := by
  have hnone : record.fields.find? (fun f => f.required && !seen.contains f.name) = none := by
    rw [List.find?_eq_none]
    intro f hf
    have := hrequired f hf
    simpa using this
  rw [members, nextKey_close hgaps]
  dsimp only
  rw [hnone, endObject_close hgaps]
  rfl

theorem members_step (fuel : Nat) {first : Bool} {seen : List String} {s s' : σ} {name : String}
    {cs inside rest : List Char} (hnext : nextKey first cs = .ok (some inside))
    (hmember : record.member seen s inside =
      .ok (if name ∈ record.names then some name else none, s', rest)) :
    record.members (fuel + 1) first seen s cs =
      record.members fuel false (record.seenWith name seen) s' rest := by
  rw [members, hnext]
  dsimp only
  rw [hmember, seenWith]
  by_cases hname : name ∈ record.names <;> simp only [hname, if_true, if_false]

/-- The members up to behind the closing bracket, once the first one of them is found. -/
theorem members_listed {effect : String → σ → σ} {ms : Members} {texts : List Char}
    (hlisted : Listed (IsMember WritesString) ms texts) (haccepts : ∀ m ∈ ms, record.Accepts effect m)
    {seen : List String} (hawaits : record.Awaits seen ms) (fuel : Nat) (hfuel : ms.length < fuel)
    {first : Bool} (s : σ) {cs : List Char} (rest : List Char)
    (hnext : nextKey first cs = nextKey true (texts ++ '\x7d' :: rest)) :
    record.members fuel first seen s cs = .ok (applied effect ms s, rest) := by
  induction hlisted generalizing seen fuel first s cs with
  | @one m text hitem =>
    -- one step for the member, and one for the bracket
    obtain ⟨fuel, rfl⟩ : ∃ n, fuel = n + 1 + 1 := ⟨fuel - 2, by simp at hfuel; omega⟩
    obtain ⟨behind, hbehind, hread⟩ := member_append hitem (haccepts m (by simp))
    obtain ⟨inside, hinside, hmember⟩ :=
      hread ('\x7d' :: rest) (endsValue_cons (.inr (by decide)) rest)
    rw [members_step _ (hnext.trans hinside) (hmember seen s hawaits.new),
      members_end hbehind _ _ hawaits.step.seen]
    rfl
  | @cons m text ms texts hitem hrest ih =>
    obtain ⟨fuel, rfl⟩ := Nat.exists_eq_add_one_of_ne_zero (Nat.ne_zero_of_lt hfuel)
    obtain ⟨behind, hbehind, hread⟩ := member_append hitem (haccepts m (by simp))
    obtain ⟨inside, hinside, hmember⟩ :=
      hread (',' :: (texts ++ '\x7d' :: rest)) (endsValue_cons (.inr (by decide)) _)
    have hgoesOn := nextKey_comma hbehind
      (.listed hrest fun m _ _ hmember => startsWithout_member hmember) ('\x7d' :: rest)
    have hlater : ∀ m ∈ ms, record.Accepts effect m :=
      fun m hm => haccepts m (List.mem_cons_of_mem _ hm)
    rw [List.append_assoc, List.cons_append] at hnext
    rw [members_step _ (hnext.trans hinside) (hmember seen s hawaits.new),
      ih hlater hawaits.step fuel (by simpa using hfuel) _ hgoesOn]
    rfl

/-! ## §4 Whole Records -/

/-- **A record is read from an object.**  The members stand in any order, each field is given at most
once, and those without a default are given.  The members of the record's names are put into it one
after the other; all others are passed over. -/
theorem readAt_object {effect : String → σ → σ} {ms : Members} {text : List Char}
    (hobject : IsObject ms text) (haccepts : ∀ m ∈ ms, record.Accepts effect m)
    (honce : (record.given ms).Nodup)
    (hrequired : ∀ f ∈ record.fields, f.required → f.name ∈ ms.map Prod.fst) (s : σ)
    {cs rest : List Char} (hcs : skipBlanks cs = skipBlanks (text ++ rest)) :
    record.readAt s cs = .ok (applied effect ms s, rest) := by
  have hawaits : record.Awaits [] ms :=
    ⟨honce, by simp, fun f hf hreq => .inr (hrequired f hf hreq)⟩
  cases hobject with
  | @empty gaps hgaps =>
    rw [readAt, skipBlanks_text (by decide) hcs]
    simpa [applied] using members_end hgaps _ true hawaits.seen s rest
  | @filled _ texts hlisted =>
    have hfuel : ms.length < (texts ++ '\x7d' :: rest).length + 1 := by
      have hlength := Reader.length_le_of_listed hlisted
      rw [List.length_append, List.length_cons]
      omega
    have hall := members_listed hlisted haccepts hawaits _ hfuel s rest rfl
    rw [readAt, skipBlanks_text (by decide) hcs]
    simpa using hall

/-- The reader of a record reads it from an object inside another value. -/
theorem takes_object {effect : String → σ → σ} {ms : Members} {text : List Char}
    (hobject : IsObject ms text) (haccepts : ∀ m ∈ ms, record.Accepts effect m)
    (honce : (record.given ms).Nodup)
    (hrequired : ∀ f ∈ record.fields, f.required → f.name ∈ ms.map Prod.fst) (s : σ) :
    Takes (record.read s) text (applied effect ms s) := by
  intro cs rest _ hcs
  rw [read, readAt_object hobject haccepts honce hrequired s hcs]

/-- The record that a whole text gives, which is an object with blanks around it. -/
theorem document_object {effect : String → σ → σ} {ms : Members} {object text : List Char}
    (hobject : IsObject ms object) (htext : IsElement object text)
    (haccepts : ∀ m ∈ ms, record.Accepts effect m) (honce : (record.given ms).Nodup)
    (hrequired : ∀ f ∈ record.fields, f.required → f.name ∈ ms.map Prod.fst) (s : σ) :
    record.document s (String.ofList text) = .ok (applied effect ms s) := by
  obtain ⟨before, behind, hbefore, hbehind, rfl⟩ := htext
  have hread := readAt_object hobject haccepts honce hrequired s
    (skipBlanks_append hbefore (object ++ behind))
  have hend : skipBlanks behind = [] := by
    rw [← List.append_nil behind, skipBlanks_append hbehind]
    rfl
  rw [document, String.toList_ofList, hread]
  simp [hend]

/-- One part of the record after all members, where only the members of one name touch it: the value that
they give for it, or else the one that it had. -/
theorem get_applied {get : σ → α} {effect : String → σ → σ} {name : String} {value? : Option α}
    (heffect : ∀ other s,
      get (effect other s) = if other = name then value?.getD (get s) else get s)
    {ms : Members} (hgiven : value? ≠ none → name ∈ ms.map Prod.fst) (s : σ) :
    get (applied effect ms s) = value?.getD (get s) := by
  -- the members put the same value again and again, so one of them is enough
  have hall : ∀ (ms : Members) (s : σ), get (applied effect ms s) =
      if name ∈ ms.map Prod.fst then value?.getD (get s) else get s := by
    intro ms
    induction ms with
    | nil => simp [applied]
    | cons m ms ih =>
      intro s
      have hstep := ih (effect m.1 s)
      rw [heffect] at hstep
      by_cases hm : m.1 = name
      · simp only [applied, List.foldl_cons, hm, List.map_cons, List.mem_cons, true_or, if_true]
        rw [if_pos hm, hm] at hstep
        refine hstep.trans ?_
        cases value? <;> simp
      · have hm' : ¬name = m.1 := fun h => hm h.symm
        rw [if_neg hm] at hstep
        simpa only [applied, List.foldl_cons, List.map_cons, List.mem_cons, hm', false_or] using hstep
  rw [hall]
  cases value? with
  | none => simp
  | some a => rw [if_pos (hgiven (by simp))]

/-- The value of a field is put into the record. -/
theorem takes_of {name : String} {required : Bool} {read : Reader α} {set : α → σ → σ}
    {text : List Char} {a : α} (h : Takes read text a) (s : σ) :
    Takes ((Field.of name required read set).read s) text (set a s) := by
  intro cs rest hrest hcs
  simp [Field.of, h cs rest hrest hcs, Except.map]

/-- A member is accepted when the reader of its field reads the value. -/
theorem Accepts.field {effect : String → σ → σ} {name : String} {required : Bool} {read : Reader α}
    {set : α → σ → σ} {text : List Char} {a : α}
    (hfield : record.fields.find? (·.name = name) = some (.of name required read set))
    (htakes : Takes read text a) (heffect : ∀ s, effect name s = set a s) :
    record.Accepts effect (name, text) := by
  have hread : ∀ s, Takes ((Field.of name required read set).read s) text (effect name s) := by
    intro s
    rw [heffect]
    exact takes_of htakes s
  exact Accepts.known (show record.fields.find? (·.name = (Field.of name required read set).name) =
    some (Field.of name required read set) from hfield) hread

/-- A member under the name of a field is accepted when its reader reads what the members give. -/
theorem Accepts.of_gives (record : Record σ) {effect : String → σ → σ}
    {Writes : α → List Char → Prop} {members : Members} {name : String} {value? : Option α}
    {field : Field σ} (hfield : record.fields.find? (·.name = name) = some field)
    (hknown : KnownOnce record.names members) (hgives : Gives Writes members name value?)
    {text : List Char} (hmem : (name, text) ∈ members)
    (htakes : ∀ a, value? = some a → Writes a text →
      ∀ s, Takes (field.read s) text (effect name s)) :
    record.Accepts effect (name, text) := by
  obtain rfl : field.name = name := of_decide_eq_true (List.find?_some hfield :)
  have hname : field.name ∈ record.names :=
    List.mem_map.2 ⟨field, List.mem_of_find?_eq_some hfield, rfl⟩
  obtain ⟨a, hvalue, hwrites⟩ := hgives.written hknown hname hmem
  exact .known hfield (htakes a hvalue hwrites)

end Record

end RoleDaemon.Json

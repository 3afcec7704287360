import RoleDaemon.Net.Address
import RoleDaemon.Proofs.Text.Digits

/-!
# Addresses Read Back

Every address is read back from its written form, so that no two addresses are written alike.  For the
longer family the reader has to find out how many groups were left out, and it must not take a group for
the beginning of a dotted address.

## Architecture

- `IPv4.read_chars`: a dotted address is read back, whatever follows
- `IPv4.read_eq_none`: no dotted address begins where no dot follows the first digits
- `readGroups_behindColons`, `readGroups_groupChars`: groups are read back up to the place of a `::`
- `IPv6.chars_cases`: the three written forms: dotted, shortened, and in full
- `IPv6.read_chars`: an address is read back from each of them

Main statements:
- `Address.parse?_text`: an address is read back from its text
- `Address.text_injective`: no two addresses have the same text
-/

namespace RoleDaemon.Net

open Text

/-! ## §1 Dotted Addresses -/

@[simp] theorem after?_cons_self (c : Char) (rest : List Char) : after? c (c :: rest) = some rest := by
  simp [after?]

theorem after?_cons_of_ne {c d : Char} (h : d ≠ c) (rest : List Char) :
    after? c (d :: rest) = none := by
  simp [after?, h]

theorem endsDigits_nil (radix : Nat) : EndsDigits radix [] := by
  rintro c ⟨⟩

theorem endsDigits_dot (rest : List Char) : EndsDigits 10 ('.' :: rest) := by
  rintro c ⟨⟩
  decide

theorem endsDigits_colon (rest : List Char) : EndsDigits 16 (':' :: rest) := by
  rintro c ⟨⟩
  decide

/-- An octet is read back. -/
theorem readOctet_decimal (n : UInt8) {rest : List Char} (hrest : EndsDigits 10 rest) :
    readOctet (decimal n.toNat ++ rest) = some (n, rest) := by
  have hsmall : n.toNat < 256 := n.toNat_lt
  have hwidth : (Nat.toDigits 10 n.toNat).length ≤ 3 :=
    (Nat.length_toDigits_le_iff (by decide) (by decide)).2 (by omega)
  unfold readOctet decimal
  rw [readNumber_toDigits (by decide) (by decide) hwidth false hrest]
  simp [hsmall]

/-- A dotted address is read back. -/
theorem IPv4.read_chars (address : IPv4) {rest : List Char} (hrest : EndsDigits 10 rest) :
    IPv4.read (address.chars ++ rest) = some (address, rest) := by
  unfold IPv4.read IPv4.chars
  simp [readOctet_decimal, endsDigits_dot, hrest, List.append_assoc]

theorem IPv4.read_chars_nil (address : IPv4) : IPv4.read address.chars = some (address, []) := by
  have hread := address.read_chars (endsDigits_nil 10)
  rwa [List.append_nil] at hread

/-- What follows a number is the text behind its digits. -/
theorem readNumber_rest {radix width n : Nat} {leadingZeros : Bool} {cs rest : List Char}
    (h : readNumber radix width leadingZeros cs = some (n, rest)) :
    rest = cs.dropWhile (isDigitOf radix) := by
  simp only [readNumber] at h
  split at h
  · cases h
  · exact (congrArg Prod.snd (Option.some.inj h)).symm

theorem readOctet_rest {n : UInt8} {cs rest : List Char} (h : readOctet cs = some (n, rest)) :
    rest = cs.dropWhile (isDigitOf 10) := by
  simp only [readOctet, Option.bind_eq_bind, Option.bind_eq_some_iff] at h
  obtain ⟨⟨value, behind⟩, hread, hoctet⟩ := h
  split at hoctet
  · cases hoctet
    exact readNumber_rest hread
  · cases hoctet

/-- No dotted address begins where no dot follows the first digits. -/
theorem IPv4.read_eq_none {cs : List Char}
    (h : after? '.' (cs.dropWhile (isDigitOf 10)) = none) : IPv4.read cs = none := by
  unfold IPv4.read
  cases hread : readOctet cs with
  | none => rfl
  | some first =>
    obtain ⟨n, rest⟩ := first
    simp [readOctet_rest hread, h]

/-! ## §2 Groups -/

/-- The text goes on with what separates groups, or it ends. -/
def EndsGroup (rest : List Char) : Prop :=
  rest = [] ∨ ∃ behind, rest = ':' :: behind

theorem EndsGroup.endsDigits {rest : List Char} (h : EndsGroup rest) : EndsDigits 16 rest := by
  obtain rfl | ⟨behind, rfl⟩ := h
  · exact endsDigits_nil 16
  · exact endsDigits_colon behind

/-- Hexadecimal digits are not the beginning of a dotted address. -/
theorem IPv4.read_hexDigits {ds rest : List Char} (hdigits : ∀ c ∈ ds, isDigitOf 16 c)
    (hrest : EndsGroup rest) : IPv4.read (ds ++ rest) = none := by
  apply IPv4.read_eq_none
  induction ds with
  | nil =>
    obtain rfl | ⟨behind, rfl⟩ := hrest
    · rfl
    · rfl
  | cons c ds ih =>
    obtain ⟨hc, hdigits⟩ := List.forall_mem_cons.1 hdigits
    rw [List.cons_append, List.dropWhile_cons]
    split
    · exact ih hdigits
    · apply after?_cons_of_ne
      rintro rfl
      exact absurd hc (by decide)

/-- A group is not the beginning of a dotted address. -/
theorem IPv4.read_hex (n : Nat) {rest : List Char} (hrest : EndsGroup rest) :
    IPv4.read (hex n ++ rest) = none :=
  IPv4.read_hexDigits (fun _ => isDigitOf_of_mem_toDigits (by decide) (by decide)) hrest

/-- Groups that are each behind a colon. -/
def behindColons (groups : List UInt16) : List Char :=
  groups.flatMap fun group => ':' :: hex group.toNat

theorem groupChars_cons (group : UInt16) (groups : List UInt16) :
    groupChars (group :: groups) = hex group.toNat ++ behindColons groups := by
  induction groups generalizing group with
  | nil => simp [groupChars, behindColons, List.intercalate]
  | cons next groups ih =>
    have hnext := ih next
    simp only [groupChars, List.intercalate, List.map_cons, List.intersperse_cons_cons,
      List.flatten_cons] at hnext ⊢
    rw [hnext]
    simp [behindColons]

/-- What ends a list of groups: the end of the text, or two colons. -/
def EndsGroups (rest : List Char) : Prop :=
  rest = [] ∨ ∃ behind, rest = ':' :: ':' :: behind

theorem EndsGroups.endsGroup {rest : List Char} (h : EndsGroups rest) (groups : List UInt16) :
    EndsGroup (behindColons groups ++ rest) := by
  cases groups with
  | nil =>
    obtain rfl | ⟨behind, rfl⟩ := h
    · exact .inl rfl
    · exact .inr ⟨_, rfl⟩
  | cons group groups => exact .inr ⟨_, rfl⟩

/-- No group begins at the end of a list of groups. -/
theorem readGroups_ends {rest : List Char} (h : EndsGroups rest) (room : Nat) (first : Bool) :
    readGroups room first rest = ([], false, rest) := by
  cases room with
  | zero => rfl
  | succ room =>
    obtain rfl | ⟨behind, rfl⟩ := h <;> cases first <;> cases room <;> rfl

/-- One more group is read, however it is spelled. -/
theorem readGroups_group {ds rest cs : List Char} (hds : IsNumber 16 4 true ds)
    (hrest : EndsGroup rest) (room : Nat) {first : Bool}
    (hstart : (if first then some cs else after? ':' cs) = some (ds ++ rest)) :
    readGroups (room + 1) first cs =
      ((ofDigits 16 ds).toUInt16 :: (readGroups room false rest).1,
        (readGroups room false rest).2) := by
  have hdotted : (if room = 0 then none else (some (ds ++ rest)).bind IPv4.read) = none := by
    simp [IPv4.read_hexDigits hds.digits hrest]
  have hgroup : readNumber 16 4 true (ds ++ rest) = some (ofDigits 16 ds, rest) :=
    readNumber_eq_some_iff.2 ⟨ds, hds, hrest.endsDigits, rfl, rfl⟩
  rw [readGroups]
  simp only [hstart]
  rw [hdotted]
  simp only [Option.bind_some, hgroup]

/-- A group is read back. -/
theorem readGroups_succ (group : UInt16) {rest cs : List Char} (hrest : EndsGroup rest) (room : Nat)
    {first : Bool} (hstart : (if first then some cs else after? ':' cs) =
      some (hex group.toNat ++ rest)) :
    readGroups (room + 1) first cs =
      (group :: (readGroups room false rest).1, (readGroups room false rest).2) := by
  have hsmall : group.toNat < 65536 := group.toNat_lt
  have hwidth : (Nat.toDigits 16 group.toNat).length ≤ 4 :=
    (Nat.length_toDigits_le_iff (by decide) (by decide)).2 (by omega)
  have hvalue : (ofDigits 16 (hex group.toNat)).toUInt16 = group := by
    rw [hex, ofDigits_toDigits (by decide) (by decide)]
    simp
  rw [readGroups_group (isNumber_toDigits (by decide) (by decide) hwidth true) hrest room hstart]
  exact congrArg (fun g => (g :: _, _)) hvalue

/-- Groups behind colons are read back. -/
theorem readGroups_behindColons {rest : List Char} (hrest : EndsGroups rest) {groups : List UInt16}
    {room : Nat} (hroom : groups.length ≤ room) :
    readGroups room false (behindColons groups ++ rest) = (groups, false, rest) := by
  induction groups generalizing room with
  | nil => exact readGroups_ends hrest room false
  | cons group groups ih =>
    cases room with
    | zero => simp at hroom
    | succ room =>
      have hgroups : groups.length ≤ room := by simpa using hroom
      have hstart : after? ':' (behindColons (group :: groups) ++ rest) =
          some (hex group.toNat ++ (behindColons groups ++ rest)) := by
        simp [behindColons]
      rw [readGroups_succ group (hrest.endsGroup groups) room (by simpa using hstart), ih hgroups]

/-- Groups with colons between them are read back. -/
theorem readGroups_groupChars {rest : List Char} (hrest : EndsGroups rest) {groups : List UInt16}
    {room : Nat} (hroom : groups.length ≤ room) :
    readGroups room true (groupChars groups ++ rest) = (groups, false, rest) := by
  cases groups with
  | nil => exact readGroups_ends hrest room true
  | cons group groups =>
    cases room with
    | zero => simp at hroom
    | succ room =>
      have hgroups : groups.length ≤ room := by simpa using hroom
      have hstart : groupChars (group :: groups) ++ rest =
          hex group.toNat ++ (behindColons groups ++ rest) := by
        rw [groupChars_cons, List.append_assoc]
      rw [readGroups_succ group (hrest.endsGroup groups) room (by simpa using hstart),
        readGroups_behindColons hrest hgroups]

theorem readGroups_groupChars_nil {groups : List UInt16} {room : Nat} (hroom : groups.length ≤ room) :
    readGroups room true (groupChars groups) = (groups, false, []) := by
  have hread := readGroups_groupChars (.inl rfl) hroom
  rwa [List.append_nil] at hread

/-! ## §3 Addresses of the Longer Family -/

/-- Zero groups that were left out are put back. -/
theorem zeroRun_split (groups : List UInt16) (start : Nat) :
    groups.take start ++ List.replicate (zeroRun groups start) 0 ++
      groups.drop (start + zeroRun groups start) = groups := by
  have hzeros : (groups.drop start).takeWhile (· == 0) =
      List.replicate (zeroRun groups start) 0 := by
    rw [List.eq_replicate_iff]
    refine ⟨rfl, fun group hgroup => ?_⟩
    simpa using List.mem_takeWhile_imp hgroup
  have hbehind : (groups.drop start).dropWhile (· == 0) =
      groups.drop (start + zeroRun groups start) := by
    calc (groups.drop start).dropWhile (· == 0)
        = ((groups.drop start).takeWhile (· == 0) ++
            (groups.drop start).dropWhile (· == 0)).drop (zeroRun groups start) := by
          rw [zeroRun, List.drop_left]
      _ = groups.drop (start + zeroRun groups start) := by
          rw [List.takeWhile_append_dropWhile, List.drop_drop]
  rw [← hzeros, ← hbehind, List.append_assoc, List.takeWhile_append_dropWhile,
    List.take_append_drop]

/-- The octets in two groups make up the groups. -/
theorem IPv4.groups_octets (x y : UInt16) :
    (⟨(x / 256).toUInt8, x.toUInt8, (y / 256).toUInt8, y.toUInt8⟩ : IPv4).groups = [x, y] := by
  have hgroup : ∀ g : UInt16, (g / 256).toUInt8.toUInt16 * 256 + g.toUInt8.toUInt16 = g := by
    intro g
    apply UInt16.toNat_inj.1
    have hsmall : g.toNat < 65536 := g.toNat_lt
    simp
    omega
  simp only [IPv4.groups, hgroup]

/-- The written form of an address is dotted at its end, or shortened, or in full. -/
theorem IPv6.chars_cases (address : IPv6) :
    (∃ dotted : IPv4, address.groups = [0, 0, 0, 0, 0, 0xFFFF] ++ dotted.groups ∧
      address.chars = "::ffff:".toList ++ dotted.chars) ∨
    (∃ front zeros back, address.groups = front ++ List.replicate zeros 0 ++ back ∧ 1 < zeros ∧
      address.chars = groupChars front ++ ':' :: ':' :: groupChars back) ∨
    address.chars = groupChars address.groups := by
  unfold IPv6.chars
  cases hmapped : address.mapped? with
  | some dotted =>
    unfold IPv6.mapped? at hmapped
    split at hmapped
    · rename_i x y hgroups
      cases hmapped
      exact .inl ⟨_, by rw [hgroups, IPv4.groups_octets]; rfl, rfl⟩
    · cases hmapped
  | none =>
    simp only
    split
    · rename_i hlength
      exact .inr (.inl ⟨_, _, _, (zeroRun_split _ _).symm, hlength, rfl⟩)
    · exact .inr (.inr rfl)

/-- No dotted address begins where an address of the longer family does. -/
theorem IPv6.read_dotted (address : IPv6) : IPv4.read address.chars = none := by
  have hgroups : ∀ groups rest, groups ≠ [] ∨ rest ≠ [] → EndsGroups rest →
      IPv4.read (groupChars groups ++ rest) = none := by
    intro groups rest hsome hrest
    cases groups with
    | nil =>
      obtain rfl | ⟨behind, rfl⟩ := hrest
      · simp at hsome
      · rfl
    | cons group groups =>
      rw [groupChars_cons, List.append_assoc]
      exact IPv4.read_hex group.toNat (hrest.endsGroup groups)
  obtain ⟨dotted, -, hchars⟩ | ⟨front, zeros, back, -, -, hchars⟩ | hchars := address.chars_cases
  · rw [hchars]
    rfl
  · rw [hchars]
    exact hgroups front _ (.inr (by simp)) (.inr ⟨_, rfl⟩)
  · have hnonempty : address.groups ≠ [] := by
      intro hnil
      have hsize := address.size
      simp [hnil] at hsize
    have hread := hgroups address.groups [] (.inl hnonempty) (.inl rfl)
    rwa [List.append_nil, ← hchars] at hread

/-- Two colons stand for as many zero groups as are missing. -/
theorem IPv6.read_shortened {cs behind rest : List Char} {front back : List UInt16} {dotted : Bool}
    (address : IPv6) (hfront : readGroups 8 true cs = (front, false, ':' :: ':' :: behind))
    (hshort : front.length < 8)
    (hback : readGroups (7 - front.length) true behind = (back, dotted, rest))
    (hgroups : address.groups =
      front ++ List.replicate (8 - front.length - back.length) 0 ++ back) :
    IPv6.read cs = some (address, rest) := by
  have haddress : IPv6.ofGroups? (front ++ List.replicate (8 - front.length - back.length) 0 ++ back) =
      some address := by
    rw [← hgroups, IPv6.ofGroups?, dif_pos address.size]
  unfold IPv6.read
  simp only [hfront, dif_neg hshort.ne, Bool.false_eq_true, if_false, after?_cons_self,
    Option.bind_eq_bind, Option.bind_some, hback, haddress]

/-- An address of the longer family is read back from each of its forms. -/
theorem IPv6.read_chars (address : IPv6) : IPv6.read address.chars = some (address, []) := by
  have hsize := address.size
  obtain ⟨dotted, hgroups, hchars⟩ | ⟨front, zeros, back, hgroups, hzeros, hchars⟩ | hchars :=
    address.chars_cases
  · have hback : readGroups 7 true ("ffff:".toList ++ dotted.chars) =
        (0xFFFF :: dotted.groups, true, []) := by
      have hgroup : readGroups 7 true ("ffff:".toList ++ dotted.chars) =
          (0xFFFF :: (readGroups 6 false (':' :: dotted.chars)).1,
            (readGroups 6 false (':' :: dotted.chars)).2) :=
        readGroups_succ 0xFFFF (.inr ⟨_, rfl⟩) 6 rfl
      have hdotted : readGroups 6 false (':' :: dotted.chars) = (dotted.groups, true, []) := by
        simp [readGroups, dotted.read_chars_nil]
      rw [hgroup, hdotted]
    rw [hchars]
    have hfront : readGroups 8 true ("::ffff:".toList ++ dotted.chars) =
        ([], false, ':' :: ':' :: ("ffff:".toList ++ dotted.chars)) := rfl
    exact IPv6.read_shortened address hfront (by decide) hback (by rw [hgroups]; rfl)
  · have hlength : front.length + zeros + back.length = 8 := by
      rw [hgroups, List.length_append, List.length_append, List.length_replicate] at hsize
      exact hsize
    have hfront : readGroups 8 true address.chars =
        (front, false, ':' :: ':' :: groupChars back) := by
      rw [hchars]
      exact readGroups_groupChars (.inr ⟨_, rfl⟩) (by omega)
    have hback : readGroups (7 - front.length) true (groupChars back) = (back, false, []) :=
      readGroups_groupChars_nil (by omega)
    have hfill : 8 - front.length - back.length = zeros := by omega
    exact IPv6.read_shortened address hfront (by omega) hback (by rw [hgroups, hfill])
  · have hread : readGroups 8 true address.chars = (address.groups, false, []) := by
      rw [hchars]
      exact readGroups_groupChars_nil (by omega)
    unfold IPv6.read
    simp only [hread, dif_pos hsize]

/-! ## §4 Addresses of Both Families -/

/-- An address is read back from its text. -/
theorem Address.parse?_text (address : Address) : Address.parse? address.text = some address := by
  unfold Address.parse? Address.text
  rw [String.toList_ofList]
  cases address with
  | v4 address => simp [Address.chars, address.read_chars_nil]
  | v6 address => simp [Address.chars, address.read_dotted, address.read_chars]

/-- A text that spells a dotted address is read to its end. -/
theorem IPv4.read_of_parse? {s : String} {address : IPv4}
    (h : Address.parse? s = some (.v4 address)) : IPv4.read s.toList = some (address, []) := by
  unfold Address.parse? at h
  split at h
  · rename_i other rest hread
    split at h
    · rename_i hrest
      obtain rfl := List.isEmpty_iff.1 hrest
      cases h
      exact hread
    · cases h
  · split at h
    · split at h <;> simp at h
    · cases h

/-- No two addresses have the same text. -/
theorem Address.text_injective : Function.Injective Address.text := by
  intro a b h
  have hread : Address.parse? a.text = Address.parse? b.text := congrArg Address.parse? h
  rw [a.parse?_text, b.parse?_text] at hread
  exact Option.some.inj hread

end RoleDaemon.Net

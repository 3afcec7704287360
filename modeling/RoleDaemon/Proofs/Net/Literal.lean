import RoleDaemon.Proofs.Net.Address

/-!
# Address Literals

The texts that spell an address, as a grammar that knows nothing of reading.  A dotted address is four
octets with dots between them.  An address of the longer family is eight groups with colons between them,
or fewer groups with two colons in one place, and a dotted address may stand for its last two groups.  The
reader accepts what the grammar generates, and nothing else.

## Architecture

- `IPv4.IsLiteral`, `IsRun`, `IPv6.IsLiteral`: the grammar
- `IPv4.exists_read_iff`: dotted addresses at the head of a text
- `isRun_of_readGroups`, `readGroups_of_isRun`: the reader of groups finds a run of them, and all of it
- `IPv6.exists_read_iff`: addresses of the longer family that are the whole text

Main statements:
- `Address.exists_parse?_v4_iff`, `Address.exists_parse?_v6_iff`: the texts that spell an address
-/

namespace RoleDaemon.Net

open Text

/-! ## §1 Grammar -/

/-- An octet: one to three decimal digits that denote at most 255, without a leading zero. -/
structure IsOctet (cs : List Char) : Prop extends IsNumber 10 3 false cs where
  small : ofDigits 10 cs ≤ 255

/-- A dotted address: four octets with dots between them. -/
inductive IPv4.IsLiteral : List Char → Prop where
  | dotted {a b c d : List Char} (ha : IsOctet a) (hb : IsOctet b) (hc : IsOctet c) (hd : IsOctet d) :
      IsLiteral (a ++ '.' :: (b ++ '.' :: (c ++ '.' :: d)))

/-- A group: one to four hexadecimal digits of either case. -/
abbrev IsGroup (cs : List Char) : Prop := IsNumber 16 4 true cs

/-- Groups with colons between them: how many there are, and whether a dotted address stands for the
    last two. -/
inductive IsRun : (count : Nat) → (dotted : Bool) → List Char → Prop where
  | nil : IsRun 0 false []
  | group {cs : List Char} (h : IsGroup cs) : IsRun 1 false cs
  | dotted {cs : List Char} (h : IPv4.IsLiteral cs) : IsRun 2 true cs
  | cons {cs behind : List Char} {count : Nat} {dotted : Bool} (h : IsGroup cs)
      (hbehind : IsRun (count + 1) dotted behind) : IsRun (count + 2) dotted (cs ++ ':' :: behind)

/-- An address of the longer family. -/
inductive IPv6.IsLiteral : List Char → Prop where
  /-- All eight groups. -/
  | full {cs : List Char} {dotted : Bool} (h : IsRun 8 dotted cs) : IsLiteral cs
  /-- Two colons stand for at least one zero group; no dotted address is in front of them. -/
  | shortened {front back : List Char} {m n : Nat} {dotted : Bool} (hfront : IsRun m false front)
      (hback : IsRun n dotted back) (hroom : m + n ≤ 7) : IsLiteral (front ++ ':' :: ':' :: back)

/-! ## §2 Dotted Addresses -/

theorem after?_eq_some_iff {c : Char} {cs rest : List Char} :
    after? c cs = some rest ↔ cs = c :: rest := by
  cases cs with
  | nil => simp [after?]
  | cons d behind => by_cases hd : d = c <;> simp [after?, hd]

theorem exists_readOctet_iff {cs rest : List Char} :
    (∃ n, readOctet cs = some (n, rest)) ↔
      ∃ ds, IsOctet ds ∧ EndsDigits 10 rest ∧ cs = ds ++ rest := by
  simp only [readOctet, Option.bind_eq_bind, Option.bind_eq_some_iff, Prod.exists]
  constructor
  · rintro ⟨octet, value, behind, hread, hoctet⟩
    obtain ⟨ds, hds, hends, rfl, rfl⟩ := readNumber_eq_some_iff.1 hread
    split at hoctet
    · rename_i hsmall
      cases hoctet
      exact ⟨ds, ⟨hds, Nat.le_of_lt_succ hsmall⟩, hends, rfl⟩
    · cases hoctet
  · rintro ⟨ds, hds, hends, rfl⟩
    exact ⟨_, _, rest, readNumber_eq_some_iff.2 ⟨ds, hds.toIsNumber, hends, rfl, rfl⟩,
      if_pos (Nat.lt_succ_of_le hds.small)⟩

/-- An octet behind a dot. -/
theorem exists_readOctet_after_iff {cs rest : List Char} :
    (∃ n, (after? '.' cs).bind readOctet = some (n, rest)) ↔
      ∃ ds, IsOctet ds ∧ EndsDigits 10 rest ∧ cs = '.' :: (ds ++ rest) := by
  simp only [Option.bind_eq_some_iff, after?_eq_some_iff]
  constructor
  · rintro ⟨n, behind, rfl, hread⟩
    obtain ⟨ds, hds, hends, rfl⟩ := exists_readOctet_iff.1 ⟨n, hread⟩
    exact ⟨ds, hds, hends, rfl⟩
  · rintro ⟨ds, hds, hends, rfl⟩
    obtain ⟨n, hread⟩ := exists_readOctet_iff.2 ⟨ds, hds, hends, rfl⟩
    exact ⟨n, _, rfl, hread⟩

/-- What is read as a dotted address is one at the head of the text, up to its last digit. -/
theorem IPv4.exists_read_iff {cs rest : List Char} :
    (∃ address, IPv4.read cs = some (address, rest)) ↔
      ∃ text, IPv4.IsLiteral text ∧ EndsDigits 10 rest ∧ cs = text ++ rest := by
  simp only [IPv4.read, Option.bind_eq_bind, Option.bind_eq_some_iff, Prod.exists,
    Option.some.injEq, Prod.mk.injEq]
  constructor
  · rintro ⟨address, a, cs₁, ha, b, cs₂, hb, c, cs₃, hc, d, cs₄, hd, -, rfl⟩
    obtain ⟨as, has, -, rfl⟩ := exists_readOctet_iff.1 ⟨a, ha⟩
    obtain ⟨bs, hbs, -, rfl⟩ := exists_readOctet_after_iff.1 ⟨b, Option.bind_eq_some_iff.2 hb⟩
    obtain ⟨cs, hcs, -, rfl⟩ := exists_readOctet_after_iff.1 ⟨c, Option.bind_eq_some_iff.2 hc⟩
    obtain ⟨ds, hds, hends, rfl⟩ := exists_readOctet_after_iff.1 ⟨d, Option.bind_eq_some_iff.2 hd⟩
    exact ⟨_, .dotted has hbs hcs hds, hends, by simp⟩
  · rintro ⟨_, @⟨as, bs, cs, ds, has, hbs, hcs, hds⟩, hends, rfl⟩
    obtain ⟨d, hd⟩ := exists_readOctet_after_iff.2 ⟨ds, hds, hends, rfl⟩
    obtain ⟨c, hc⟩ := exists_readOctet_after_iff.2 ⟨cs, hcs, endsDigits_dot _, rfl⟩
    obtain ⟨b, hb⟩ := exists_readOctet_after_iff.2 ⟨bs, hbs, endsDigits_dot _, rfl⟩
    obtain ⟨a, ha⟩ := exists_readOctet_iff.2 ⟨as, has, endsDigits_dot _, rfl⟩
    refine ⟨_, a, _, ?_, b, _, Option.bind_eq_some_iff.1 hb, c, _, Option.bind_eq_some_iff.1 hc, d, _,
      Option.bind_eq_some_iff.1 hd, rfl, rfl⟩
    simpa using ha

/-! ## §3 Runs of Groups -/

theorem IPv4.IsLiteral.ne_nil {cs : List Char} (h : IPv4.IsLiteral cs) : cs ≠ [] := by
  obtain @⟨a, b, c, d, -, -, -, -⟩ := h
  simp

theorem IsRun.ne_nil {count : Nat} {dotted : Bool} {cs : List Char}
    (h : IsRun (count + 1) dotted cs) : cs ≠ [] := by
  cases h with
  | group h => exact h.nonempty
  | dotted h => exact h.ne_nil
  | cons h hbehind => simp

/-- A run of groups as it stands at its place: behind a colon, when groups are in front of it. -/
def runAt (first : Bool) (text : List Char) : List Char :=
  if first || text.isEmpty then text else ':' :: text

@[simp] theorem runAt_true (text : List Char) : runAt true text = text := rfl

/-- The reader starts behind the colon, when one is due. -/
theorem start_eq_some_iff {first : Bool} {cs text rest : List Char} (htext : text ≠ []) :
    (if first then some cs else after? ':' cs) = some (text ++ rest) ↔
      cs = runAt first text ++ rest := by
  cases first with
  | true => simp [runAt]
  | false => simp [runAt, htext, after?_eq_some_iff]

/-- The reader of groups finds a run of groups. -/
theorem isRun_of_readGroups {room : Nat} {first dotted : Bool} {cs rest : List Char}
    {groups : List UInt16} (h : readGroups room first cs = (groups, dotted, rest)) :
    groups.length ≤ room ∧
      ∃ text, IsRun groups.length dotted text ∧ cs = runAt first text ++ rest := by
  induction room generalizing first cs groups with
  | zero =>
    cases h
    exact ⟨Nat.le_refl _, [], .nil, by simp [runAt]⟩
  | succ room ih =>
    rw [readGroups] at h
    split at h
    · -- a dotted address ends the run
      rename_i address behind hread
      cases h
      have hroom : room ≠ 0 := by
        rintro rfl
        cases hread
      rw [if_neg hroom] at hread
      obtain ⟨start, hstart, hread⟩ := Option.bind_eq_some_iff.1 hread
      obtain ⟨text, htext, -, rfl⟩ := IPv4.exists_read_iff.1 ⟨address, hread⟩
      exact ⟨by simp [IPv4.groups]; omega, text, .dotted htext,
        (start_eq_some_iff htext.ne_nil).1 hstart⟩
    · split at h
      · -- a group, and what is read behind it
        rename_i n behind hread
        obtain ⟨start, hstart, hread⟩ := Option.bind_eq_some_iff.1 hread
        obtain ⟨ds, hds, -, rfl, -⟩ := readNumber_eq_some_iff.1 hread
        rcases hrest : readGroups room false behind with ⟨later, dotted', rest'⟩
        rw [hrest] at h
        cases h
        obtain ⟨hlength, text, htext, rfl⟩ := ih hrest
        refine ⟨Nat.succ_le_succ hlength, ?_⟩
        cases later with
        | nil =>
          cases htext
          exact ⟨ds, .group hds, (start_eq_some_iff hds.nonempty).1 hstart⟩
        | cons group later =>
          refine ⟨ds ++ ':' :: text, .cons hds htext, (start_eq_some_iff (by simp)).1 ?_⟩
          simpa [runAt, htext.ne_nil] using hstart
      · cases h
        exact ⟨Nat.zero_le _, [], .nil, by simp [runAt]⟩

/-- A run of groups is read to its end, where no more groups follow. -/
theorem readGroups_of_isRun {count : Nat} {dotted : Bool} {text rest : List Char}
    (h : IsRun count dotted text) {room : Nat} (hroom : count ≤ room) (first : Bool)
    (hrest : EndsGroups rest) :
    ∃ groups, groups.length = count ∧
      readGroups room first (runAt first text ++ rest) = (groups, dotted, rest) := by
  induction h generalizing room first with
  | nil => exact ⟨[], rfl, by simpa [runAt] using readGroups_ends hrest room first⟩
  | @group cs hcs =>
    obtain ⟨room, rfl⟩ := Nat.exists_eq_add_of_le' hroom
    refine ⟨[(ofDigits 16 cs).toUInt16], rfl, ?_⟩
    have hends : EndsGroup rest := by simpa [behindColons] using hrest.endsGroup []
    rw [readGroups_group hcs hends room ((start_eq_some_iff hcs.nonempty).2 rfl),
      readGroups_ends hrest]
  | @dotted cs hcs =>
    obtain ⟨room, rfl⟩ := Nat.exists_eq_add_of_le' hroom
    have hends : EndsDigits 10 rest := by
      obtain rfl | ⟨behind, rfl⟩ := hrest
      · exact endsDigits_nil 10
      · rintro c ⟨⟩
        decide
    obtain ⟨address, hread⟩ := IPv4.exists_read_iff.2 ⟨cs, hcs, hends, rfl⟩
    refine ⟨address.groups, rfl, ?_⟩
    rw [readGroups, (start_eq_some_iff hcs.ne_nil).2 rfl]
    simp [hread]
  | @cons cs behind count dotted hcs hbehind ih =>
    obtain ⟨room, rfl⟩ := Nat.exists_eq_add_of_le' hroom
    have hroom' : count + 1 ≤ room + (count + 1) := Nat.le_add_left ..
    obtain ⟨groups, hlength, hread⟩ := ih hroom' false
    have hcolon : runAt false behind = ':' :: behind := by simp [runAt, hbehind.ne_nil]
    rw [hcolon, List.cons_append] at hread
    have hnonempty : cs ++ ':' :: behind ≠ [] := by simp
    have hstart := (start_eq_some_iff hnonempty).2 (rfl : runAt first _ ++ rest = _)
    rw [List.append_assoc] at hstart
    refine ⟨(ofDigits 16 cs).toUInt16 :: groups, congrArg (· + 1) hlength, ?_⟩
    refine (readGroups_group hcs (.inr ⟨behind ++ rest, rfl⟩) (room + (count + 1)) hstart).trans ?_
    rw [hread]

/-! ## §4 Addresses -/

/-- No dotted address begins where a run of groups does, unless it is one. -/
theorem IsRun.read_eq_none {count : Nat} {dotted : Bool} {text rest : List Char}
    (h : IsRun count dotted text) (hcount : dotted → 2 < count) (hrest : EndsGroups rest)
    (hnonempty : text ++ rest ≠ []) : IPv4.read (text ++ rest) = none := by
  cases h with
  | nil =>
    obtain rfl | ⟨behind, rfl⟩ := hrest
    · exact absurd rfl hnonempty
    · rfl
  | group hcs =>
    exact IPv4.read_hexDigits hcs.digits (by simpa [behindColons] using hrest.endsGroup [])
  | dotted hcs => exact absurd (hcount rfl) (Nat.lt_irrefl 2)
  | cons hcs hbehind =>
    rw [List.append_assoc]
    exact IPv4.read_hexDigits hcs.digits (.inr ⟨_, rfl⟩)

/-- An address of the longer family does not begin with a dotted address. -/
theorem IPv6.IsLiteral.read_eq_none {cs : List Char} (h : IPv6.IsLiteral cs) :
    IPv4.read cs = none := by
  cases h with
  | full h =>
    have hread := h.read_eq_none (fun _ => by decide) (.inl rfl) (by simpa using h.ne_nil)
    rwa [List.append_nil] at hread
  | shortened hfront hback hroom =>
    exact hfront.read_eq_none (by simp) (.inr ⟨_, rfl⟩) (by simp)

/-- What is read to its end as an address of the longer family spells one. -/
theorem IPv6.exists_read_iff {cs : List Char} :
    (∃ address, IPv6.read cs = some (address, [])) ↔ IPv6.IsLiteral cs := by
  constructor
  · rintro ⟨address, hread⟩
    unfold IPv6.read at hread
    rcases hfront : readGroups 8 true cs with ⟨front, dotted, behind⟩
    obtain ⟨hlength, text, htext, rfl⟩ := isRun_of_readGroups hfront
    simp only [hfront] at hread
    split at hread
    · rename_i hsize
      cases hread
      rw [hsize] at htext
      simpa using IPv6.IsLiteral.full htext
    · rename_i hsize
      split at hread
      · cases hread
      · -- the two colons, and what is read behind them
        rename_i hplain
        rw [Bool.not_eq_true] at hplain
        subst hplain
        simp only [Option.bind_eq_bind, Option.bind_eq_some_iff, after?_eq_some_iff] at hread
        obtain ⟨behind, ⟨_, rfl, rfl⟩, _, -, hread⟩ := hread
        rcases hback : readGroups (7 - front.length) true behind with ⟨back, dotted, rest⟩
        rw [hback] at hread
        cases hread
        obtain ⟨hroom, text', htext', rfl⟩ := isRun_of_readGroups hback
        simpa using IPv6.IsLiteral.shortened htext htext' (by omega)
  · intro h
    cases h with
    | @full _ dotted h =>
      obtain ⟨groups, hlength, hread⟩ :=
        readGroups_of_isRun h (Nat.le_refl 8) true (.inl rfl)
      rw [runAt_true, List.append_nil] at hread
      exact ⟨⟨groups, hlength⟩, by simp [IPv6.read, hread, hlength]⟩
    | @shortened front back m n dotted hfront hback hroom =>
      have hroomFront : m ≤ 8 := by omega
      obtain ⟨head, rfl, hreadFront⟩ :=
        readGroups_of_isRun hfront hroomFront true (.inr ⟨back, rfl⟩)
      have hroomBack : n ≤ 7 - head.length := by omega
      obtain ⟨tail, rfl, hreadBack⟩ := readGroups_of_isRun hback hroomBack true (.inl rfl)
      rw [runAt_true] at hreadFront
      rw [runAt_true, List.append_nil] at hreadBack
      have hsize : (head ++ List.replicate (8 - head.length - tail.length) 0 ++ tail).length = 8 := by
        simp only [List.length_append, List.length_replicate]
        omega
      exact ⟨⟨_, hsize⟩, IPv6.read_shortened _ hreadFront (by omega) hreadBack rfl⟩

/-- A text spells a dotted address. -/
theorem Address.exists_parse?_v4_iff {s : String} :
    (∃ address, Address.parse? s = some (.v4 address)) ↔ IPv4.IsLiteral s.toList := by
  have hend : (∃ address, IPv4.read s.toList = some (address, [])) ↔ IPv4.IsLiteral s.toList := by
    rw [IPv4.exists_read_iff]
    simp [endsDigits_nil]
  rw [← hend]
  constructor
  · rintro ⟨address, h⟩
    exact ⟨address, IPv4.read_of_parse? h⟩
  · rintro ⟨address, hread⟩
    exact ⟨address, by simp [Address.parse?, hread]⟩

/-- A text spells an address of the longer family. -/
theorem Address.exists_parse?_v6_iff {s : String} :
    (∃ address, Address.parse? s = some (.v6 address)) ↔ IPv6.IsLiteral s.toList := by
  constructor
  · rintro ⟨address, h⟩
    unfold Address.parse? at h
    split at h
    · split at h <;> cases h
    · split at h
      · rename_i rest hread
        split at h
        · rename_i hrest
          rw [List.isEmpty_iff.1 hrest] at hread
          exact IPv6.exists_read_iff.1 ⟨_, hread⟩
        · cases h
      · cases h
  · intro h
    obtain ⟨address, hread⟩ := IPv6.exists_read_iff.2 h
    exact ⟨address, by simp [Address.parse?, h.read_eq_none, hread]⟩

/-- A text spells an address just when it is a literal of one of the two families. -/
theorem Address.isSome_parse?_iff {s : String} :
    (Address.parse? s).isSome ↔ IPv4.IsLiteral s.toList ∨ IPv6.IsLiteral s.toList := by
  rw [← exists_parse?_v4_iff, ← exists_parse?_v6_iff, Option.isSome_iff_exists]
  constructor
  · rintro ⟨_ | _, h⟩
    · exact .inl ⟨_, h⟩
    · exact .inr ⟨_, h⟩
  · rintro (⟨address, h⟩ | ⟨address, h⟩) <;> exact ⟨_, h⟩

end RoleDaemon.Net

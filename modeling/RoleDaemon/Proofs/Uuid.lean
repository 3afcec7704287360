import RoleDaemon.Uuid

/-!
# Identifiers Are Read Back

The written form of an identifier, 32 digits in small letters with hyphens between their groups, is read as
the identifier.  A reader tries the other forms first, and the written form is none of them.

## Architecture

- `ungrouped_grouped`: hyphens are taken out where they were put in
- `digit?_digitChar`, `ofPlain?_map`: digits are read back
- `ofPlain?_eq_none`, `read?_of_head`: the forms that are tried first

Main statements:
- `parse_text`: the written form is read back
-/

namespace RoleDaemon.Uuid

/-! ## §1 Groups -/

/-- The characters are enough for all groups but the last. -/
def Fills : List Nat → List Char → Prop
  | [], _ => True
  | [_], _ => True
  | n :: lengths, cs => n ≤ cs.length ∧ Fills lengths (cs.drop n)

/-- The hyphens are where they were put. -/
theorem ungrouped_grouped {lengths : List Nat} {cs : List Char} (hfills : Fills lengths cs) :
    ungrouped lengths (grouped lengths cs) = some cs := by
  induction lengths, cs using grouped.induct with
  | case1 cs => rfl
  | case2 n cs => rfl
  | case3 n lengths cs hmore ih =>
    rw [Fills.eq_3 _ _ _ hmore] at hfills
    obtain ⟨hlength, hrest⟩ := hfills
    have hfirst : (cs.take n).length = n := List.length_take_of_le hlength
    rw [grouped.eq_3 _ _ _ hmore, ungrouped.eq_3 _ _ _ hmore]
    -- the first group is as long as it is to be, and the hyphen stands behind it
    rw [List.drop_left' hfirst, List.take_left' hfirst]
    simp [ih hrest]

theorem hyphen_mem_grouped (n m : Nat) (lengths : List Nat) (cs : List Char) :
    '-' ∈ grouped (n :: m :: lengths) cs := by
  simp [grouped]

/-! ## §2 Digits -/

theorem digit?_digitChar : ∀ d : Fin 16, digit? (digitChar d) = some d := by
  decide

theorem mapM_digitChar (digits : List (Fin 16)) :
    (digits.map digitChar).mapM digit? = some digits := by
  induction digits with
  | nil => rfl
  | cons d digits ih => simp [List.mapM_cons, digit?_digitChar, ih]

/-- Digits in a row are read back. -/
theorem ofPlain?_map (id : Uuid) : ofPlain? (id.digits.map digitChar) = some id := by
  rw [ofPlain?, mapM_digitChar]
  exact dif_pos id.size

/-- What has a hyphen somewhere is no row of digits. -/
theorem ofPlain?_eq_none {cs : List Char} (hhyphen : '-' ∈ cs) : ofPlain? cs = none := by
  have hnone : cs.mapM digit? = none := by
    induction cs with
    | nil => simp at hhyphen
    | cons c cs ih =>
      -- the first character that is no digit ends the reading, and the hyphen is none
      rw [List.mapM_cons]
      obtain rfl | hmem := List.mem_cons.1 hhyphen
      · rfl
      · rw [ih hmem]
        cases digit? c <;> rfl
  rw [ofPlain?, hnone]
  rfl

/-! ## §3 Whole Texts -/

/-- A text that starts with a digit is neither in braces nor behind the name of the scheme. -/
theorem read?_of_head (d : Fin 16) (cs : List Char) (hhyphen : '-' ∈ digitChar d :: cs) :
    read? (digitChar d :: cs) = ofGrouped? (digitChar d :: cs) := by
  have hbrace : ∀ d : Fin 16, digitChar d ≠ '\x7b' := by decide
  have hscheme : ∀ d : Fin 16, lower (digitChar d) ≠ 'u' := by decide
  have hbare : inBraces? (digitChar d :: cs) = none := by
    unfold inBraces?
    split
    · rename_i heq
      exact absurd (List.cons.inj heq).1 (hbrace d)
    · rfl
  have hplain : afterScheme? (digitChar d :: cs) = none := by
    apply if_neg
    intro heq
    exact hscheme d (List.cons.inj heq).1
  rw [read?, hbare, hplain]
  dsimp only
  rw [ofPlain?_eq_none hhyphen, Option.none_or]

/-- **Identifiers are read back.**  The written form of an identifier is read as the identifier. -/
theorem parse_text (id : Uuid) : parse id.text = .ok id := by
  have hgrouped : ofGrouped? id.chars = some id := by
    have hfills : Fills groupLengths (id.digits.map digitChar) := by
      simp [Fills, groupLengths, id.size]
    rw [ofGrouped?, chars, ungrouped_grouped hfills, Option.bind_some, ofPlain?_map]
  have hread : read? id.chars = some id := by
    have hhyphen : '-' ∈ id.chars := hyphen_mem_grouped _ _ _ _
    -- there is a first digit, and it is the first character
    obtain ⟨d, digits, hdigits⟩ : ∃ d digits, id.digits = d :: digits := by
      apply List.exists_cons_of_length_pos
      rw [id.size]
      decide
    obtain ⟨cs, hchars⟩ : ∃ cs, id.chars = digitChar d :: cs := by
      rw [chars, hdigits]
      exact ⟨_, rfl⟩
    rw [hchars] at hhyphen hgrouped ⊢
    rw [read?_of_head d cs hhyphen, hgrouped]
  rw [parse, text, String.toList_ofList, hread]

end RoleDaemon.Uuid

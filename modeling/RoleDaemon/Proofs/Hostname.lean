import RoleDaemon.Hostname
import RoleDaemon.Proofs.Net.Literal
import RoleDaemon.Proofs.Text.Splitting

/-!
# Accepted Host Names

The host names that are accepted, as a grammar: address literals of both families, and labels with single
dots between them.  The check cuts a text at its dots and looks at the pieces, and it counts bytes where
the grammar of labels counts characters; both come to the same, since a label has no other characters than
those of one byte.

## Architecture

- `IsLabel`, `IsName`: the grammar of names
- `isLabel_iff`: the check of a piece accepts the labels
- `isName_iff`: a text is a name when its pieces are labels
- `isName_of_isLiteral`: a dotted address is a name, too

Main statements:
- `check_accepts_grammar`: what is accepted, and which characters it has
- `isLabelChar_of_check`: the characters of an accepted host name, by the check of a piece
-/

namespace RoleDaemon

open Text Net

namespace Hostname

/-! ## §1 Grammar -/

/-- A label: 1 to 63 letters, digits and hyphens of ASCII, with a letter or a digit at both ends. -/
structure IsLabel (cs : List Char) : Prop where
  nonempty : 1 ≤ cs.length
  short : cs.length ≤ 63
  chars : ∀ c ∈ cs, c.isAlphanum ∨ c = '-'
  first : ∀ c ∈ cs.head?, c.isAlphanum
  last : ∀ c ∈ cs.getLast?, c.isAlphanum

/-- A name: one or more labels with single dots between them, of at most 253 bytes. -/
structure IsName (name : String) : Prop where
  short : name.utf8ByteSize ≤ 253
  labels : ∃ labels : List (List Char), labels ≠ [] ∧ (∀ label ∈ labels, IsLabel label) ∧
    name.toList = ['.'].intercalate labels

/-! ## §2 Characters and Bytes -/

theorem isLabelChar_iff {c : Char} : isLabelChar c ↔ c.isAlphanum ∨ c = '-' := by
  have hranges : c.isAlphanum = (decide (65 ≤ c.val ∧ c.val ≤ 90) ||
      decide (97 ≤ c.val) && decide (c.val ≤ 122) ||
      decide (48 ≤ c.val) && decide (c.val ≤ 57)) := rfl
  simp only [hranges, isLabelChar, ← Char.toNat_val, UInt32.le_iff_toNat_le, Bool.or_eq_true,
    Bool.and_eq_true, decide_eq_true_eq, beq_iff_eq, UInt32.reduceToNat]
  grind

theorem isAlphanum_of_isDigitOf {c : Char} (h : isDigitOf 10 c) : c.isAlphanum := by
  have hrange : 48 ≤ c.toNat ∧ c.toNat ≤ 57 := by
    simp only [isDigitOf, digitValue?] at h
    grind
  have hchar : isLabelChar c := by simp [isLabelChar, hrange]
  apply (isLabelChar_iff.1 hchar).resolve_right
  rintro rfl
  exact absurd h (by decide)

@[simp] theorem byteLength_nil : byteLength [] = 0 := rfl

@[simp] theorem byteLength_cons (c : Char) (cs : List Char) :
    byteLength (c :: cs) = c.utf8Size + byteLength cs := by
  -- the bytes are counted from the front, from any number on
  have hfrom (n : Nat) : cs.foldl (fun n c => n + c.utf8Size) n = n + byteLength cs := by
    unfold byteLength
    induction cs generalizing n with
    | nil => rfl
    | cons d ds ih => rw [List.foldl_cons, List.foldl_cons, ih, ih (0 + _), Nat.zero_add, Nat.add_assoc]
  rw [byteLength, List.foldl_cons, hfrom, Nat.zero_add]

theorem byteLength_toList (s : String) : byteLength s.toList = s.utf8ByteSize := by
  have hsize (cs : List Char) : byteLength cs = (String.ofList cs).utf8ByteSize := by
    induction cs with
    | nil => rfl
    | cons c cs ih =>
      rw [byteLength_cons, ih, String.ofList_cons, String.utf8ByteSize_append,
        String.utf8ByteSize_singleton]
  rw [hsize, String.ofList_toList]

theorem utf8Size_of_isLabelChar {c : Char} (h : isLabelChar c ∨ c = '.') : c.utf8Size = 1 := by
  rw [Char.utf8Size_eq_one_iff, UInt32.le_iff_toNat_le]
  change c.toNat ≤ 127
  obtain hlabel | rfl := h
  · simp only [isLabelChar, Bool.or_eq_true, Bool.and_eq_true, decide_eq_true_eq,
      beq_iff_eq] at hlabel
    obtain ((hrange | hrange) | hrange) | rfl := hlabel
    · omega
    · omega
    · omega
    · decide
  · decide

/-- The characters of labels and the dot have one byte each. -/
theorem byteLength_eq_length {cs : List Char} (h : ∀ c ∈ cs, isLabelChar c ∨ c = '.') :
    byteLength cs = cs.length := by
  induction cs with
  | nil => rfl
  | cons c cs ih =>
    obtain ⟨hfirst, hrest⟩ := List.forall_mem_cons.1 h
    rw [byteLength_cons, utf8Size_of_isLabelChar hfirst, ih hrest, List.length_cons, Nat.add_comm]

/-! ## §3 Labels and Names -/

theorem ne_dot_of_isLabelChar {c : Char} (h : isLabelChar c) : c ≠ '.' := by
  rintro rfl
  exact absurd h (by decide)

/-- Among the characters of labels, only the hyphen may not stand at an end. -/
theorem outer_ne_hyphen_iff {outer? : Option Char} (h : ∀ c ∈ outer?, isLabelChar c) :
    outer? ≠ some '-' ↔ ∀ c ∈ outer?, c.isAlphanum := by
  constructor
  · intro hne c hc
    exact (isLabelChar_iff.1 (h c hc)).resolve_right fun heq => hne (heq ▸ hc)
  · rintro hall rfl
    exact absurd (hall '-' rfl) (by decide)

/-- The check of a piece accepts the labels. -/
theorem isLabel_iff {cs : List Char} : isLabel cs ↔ IsLabel cs := by
  simp only [isLabel, Bool.and_eq_true, Bool.not_eq_true', List.isEmpty_eq_false_iff,
    decide_eq_true_eq, bne_iff_ne, List.all_eq_true]
  have hbytes (hchars : ∀ c ∈ cs, isLabelChar c) : byteLength cs = cs.length :=
    byteLength_eq_length fun c hc => .inl (hchars c hc)
  have hfirst (hchars : ∀ c ∈ cs, isLabelChar c) :=
    outer_ne_hyphen_iff fun c (hc : c ∈ cs.head?) => hchars c (List.mem_of_mem_head? hc)
  have hlast (hchars : ∀ c ∈ cs, isLabelChar c) :=
    outer_ne_hyphen_iff fun c (hc : c ∈ cs.getLast?) => hchars c (List.mem_of_mem_getLast? hc)
  constructor
  · rintro ⟨⟨⟨⟨hnonempty, hshort⟩, hhead⟩, hback⟩, hchars⟩
    exact ⟨List.length_pos_iff.2 hnonempty, hbytes hchars ▸ hshort,
      fun c hc => isLabelChar_iff.1 (hchars c hc), (hfirst hchars).1 hhead, (hlast hchars).1 hback⟩
  · intro h
    have hchars : ∀ c ∈ cs, isLabelChar c := fun c hc => isLabelChar_iff.2 (h.chars c hc)
    exact ⟨⟨⟨⟨List.length_pos_iff.1 h.nonempty, (hbytes hchars).symm ▸ h.short⟩,
      (hfirst hchars).2 h.first⟩, (hlast hchars).2 h.last⟩, hchars⟩

theorem IsLabel.dot_not_mem {cs : List Char} (h : IsLabel cs) : '.' ∉ cs :=
  fun hdot => ne_dot_of_isLabelChar (isLabelChar_iff.2 (h.chars '.' hdot)) rfl

/-- A text is a name when its pieces are labels and it is short enough. -/
theorem isName_iff {name : String} :
    IsName name ↔ name.utf8ByteSize ≤ 253 ∧ ∀ part ∈ pieces '.' name.toList, IsLabel part := by
  constructor
  · rintro ⟨hshort, labels, hne, hlabels, htext⟩
    rw [htext, pieces_intercalate (fun label hlabel => (hlabels label hlabel).dot_not_mem) hne]
    exact ⟨hshort, hlabels⟩
  · rintro ⟨hshort, hpieces⟩
    exact ⟨hshort, _, pieces_ne_nil '.' name.toList, hpieces, (intercalate_pieces ..).symm⟩

/-- Apart from address literals, the names are accepted. -/
theorem check_eq_ok_iff_of_parse? {name : String} :
    check name = .ok () ↔ (Address.parse? name).isSome ∨ IsName name := by
  rw [isName_iff, ← byteLength_toList]
  simp only [← isLabel_iff, ← List.all_eq_true]
  unfold check
  by_cases hliteral : (Address.parse? name).isSome
  · simp [hliteral]
  · rw [if_neg hliteral]
    by_cases hempty : name.toList.isEmpty
    · -- the only piece of the empty text is empty
      rw [List.isEmpty_iff.1 hempty]
      simp [hliteral, isLabel]
    · rw [if_neg hempty]
      by_cases hlong : 253 < byteLength name.toList
      · simp [hlong, hliteral, Nat.not_le.2 hlong]
      · rw [if_neg hlong]
        split <;> simp_all

/-! ## §4 Accepted Texts -/

/-- An octet is a label. -/
theorem isLabel_of_isOctet {cs : List Char} (h : IsOctet cs) : IsLabel cs where
  nonempty := List.length_pos_iff.2 h.nonempty
  short := h.short.trans (by decide)
  chars c hc := .inl (isAlphanum_of_isDigitOf (h.digits c hc))
  first c hc := isAlphanum_of_isDigitOf (h.digits c (List.mem_of_mem_head? hc))
  last c hc := isAlphanum_of_isDigitOf (h.digits c (List.mem_of_mem_getLast? hc))

/-- A text has the characters of its pieces, and dots. -/
theorem isLabelChar_of_pieces {cs : List Char} (h : ∀ part ∈ pieces '.' cs, IsLabel part) {c : Char}
    (hc : c ∈ cs) : isLabelChar c ∨ c = '.' := by
  by_cases hdot : c = '.'
  · exact .inr hdot
  · obtain ⟨part, hpart, hmem⟩ := exists_mem_pieces hdot hc
    exact .inl (isLabelChar_iff.2 ((h part hpart).chars c hmem))

/-- A dotted address is a name. -/
theorem isName_of_isLiteral {name : String} (h : IPv4.IsLiteral name.toList) : IsName name := by
  generalize htext : name.toList = text at h
  obtain @⟨a, b, c, d, ha, hb, hc, hd⟩ := h
  have hlabels : ∀ label ∈ [a, b, c, d], IsLabel label := by
    simp [isLabel_of_isOctet, ha, hb, hc, hd]
  have hpieces : ∀ part ∈ pieces '.' name.toList, IsLabel part := by
    have hjoined : name.toList = ['.'].intercalate [a, b, c, d] := by
      simpa [List.intercalate] using htext
    rw [hjoined, pieces_intercalate (fun label h => (hlabels label h).dot_not_mem) (by simp)]
    exact hlabels
  have hlength : name.toList.length ≤ 15 := by
    have hshort : a.length ≤ 3 ∧ b.length ≤ 3 ∧ c.length ≤ 3 ∧ d.length ≤ 3 :=
      ⟨ha.short, hb.short, hc.short, hd.short⟩
    rw [htext]
    simp only [List.length_append, List.length_cons]
    omega
  refine isName_iff.2 ⟨?_, hpieces⟩
  rw [← byteLength_toList, byteLength_eq_length fun c => isLabelChar_of_pieces hpieces]
  exact hlength.trans (by decide)

/-- No dot of a name stands at an end or beside another dot. -/
theorem IsName.dot_between {name : String} (h : IsName name) :
    ¬ ['.'] <+: name.toList ∧ ¬ ['.'] <:+ name.toList ∧ ¬ ['.', '.'] <:+: name.toList := by
  -- each of these dots would cut off an empty piece
  have hempty : [] ∉ pieces '.' name.toList := fun hmem =>
    absurd ((isName_iff.1 h).2 [] hmem).nonempty (by decide)
  refine ⟨?_, ?_, ?_⟩
  · rintro ⟨behind, htext⟩
    apply hempty
    rw [← htext, List.singleton_append, pieces_cons, if_pos rfl]
    exact List.mem_cons_self
  · rintro ⟨before, htext⟩
    apply hempty
    rw [← htext, pieces_append]
    exact List.mem_append_right _ (List.mem_singleton_self _)
  · rintro ⟨before, behind, htext⟩
    apply hempty
    have hsplit : name.toList = before ++ '.' :: '.' :: behind := by simpa using htext.symm
    rw [hsplit, pieces_append, pieces_cons, if_pos rfl]
    exact List.mem_append_right _ List.mem_cons_self

/-- What is accepted and is no address of the longer family is a name. -/
theorem isName_of_check {name : String} (h : check name = .ok ())
    (hshort : ¬ IPv6.IsLiteral name.toList) : IsName name := by
  rw [check_eq_ok_iff_of_parse?, Address.isSome_parse?_iff] at h
  obtain (hdotted | hlong) | hname := h
  · exact isName_of_isLiteral hdotted
  · exact absurd hlong hshort
  · exact hname

/-- An accepted host name that does not spell an address of the longer family has letters, digits,
    hyphens and dots only. -/
theorem isLabelChar_of_check {name : String} (h : check name = .ok ())
    (hshort : ∀ address, Address.parse? name ≠ some (.v6 address)) {c : Char}
    (hc : c ∈ name.toList) : isLabelChar c ∨ c = '.' := by
  have hliteral : ¬ IPv6.IsLiteral name.toList := fun hlong => by
    obtain ⟨address, hparse⟩ := Address.exists_parse?_v6_iff.2 hlong
    exact hshort address hparse
  exact isLabelChar_of_pieces (isName_iff.1 (isName_of_check h hliteral)).2 hc

/-- **What is accepted as a host name.**  A text is accepted just when it is a literal of one of the two
    families of addresses, or a name: labels of 1 to 63 letters, digits and hyphens with single dots
    between them, no hyphen at an end of a label, in at most 253 bytes.  So an accepted text that is no
    literal of the longer family has letters, digits, hyphens and dots only, and none of its dots stands at
    an end or beside another dot. -/
theorem check_accepts_grammar (name : String) :
    (check name = .ok () ↔
      IPv4.IsLiteral name.toList ∨ IPv6.IsLiteral name.toList ∨ IsName name) ∧
    (check name = .ok () → ¬ IPv6.IsLiteral name.toList →
      (∀ c ∈ name.toList, c.isAlphanum ∨ c = '-' ∨ c = '.') ∧
      ¬ ['.'] <+: name.toList ∧ ¬ ['.'] <:+ name.toList ∧ ¬ ['.', '.'] <:+: name.toList) := by
  constructor
  · rw [check_eq_ok_iff_of_parse?, Address.isSome_parse?_iff, or_assoc]
  · intro h hshort
    have hname := isName_of_check h hshort
    refine ⟨fun c hc => ?_, hname.dot_between⟩
    have hchar := isLabelChar_of_pieces (isName_iff.1 hname).2 hc
    rwa [isLabelChar_iff, or_assoc] at hchar

end Hostname

end RoleDaemon

import RoleDaemon.Text.Blank

/-!
# Texts in Pieces

The pieces of a text are what stands between the occurrences of a separator, as the library's `splitOn`
has it.  The pieces joined by the separator are the text again, and a list of texts without the separator
is cut out of what it is joined to.

Main statements:
- `pieces_eq_splitOn`: the pieces are those of the library
- `pieces_append`: a separator divides the pieces of a text into those before it and those behind it
- `mem_of_mem_pieces`, `exists_mem_pieces`: the characters of the pieces are those of the text
-/

namespace RoleDaemon.Text

theorem pieces_cons (sep c : Char) (cs : List Char) :
    pieces sep (c :: cs) =
      if c = sep then [] :: pieces sep cs
      else match pieces sep cs with
        | [] => [[c]]
        | part :: rest => (c :: part) :: rest := rfl

theorem pieces_eq_splitOn (sep : Char) (cs : List Char) : pieces sep cs = cs.splitOn sep := by
  induction cs with
  | nil => rfl
  | cons c cs ih =>
    rw [pieces_cons, List.splitOn, List.splitOnP_cons_eq_if_modifyHead]
    simp only [beq_iff_eq]
    split
    · exact congrArg ([] :: ·) ih
    · -- the first piece, which is always there, gets one more character
      rw [← List.splitOn, ← ih]
      cases hpieces : pieces sep cs with
      | nil => exact absurd hpieces (pieces_ne_nil sep cs)
      | cons part rest => rfl

/-- What stands before a separator and what stands behind it are cut apart. -/
theorem pieces_append (sep : Char) (before behind : List Char) :
    pieces sep (before ++ sep :: behind) = pieces sep before ++ pieces sep behind := by
  simp only [pieces_eq_splitOn, List.splitOn_append_cons_self]

/-- A text without separators is its only piece. -/
theorem pieces_of_not_mem {sep : Char} {cs : List Char} (h : sep ∉ cs) : pieces sep cs = [cs] := by
  rw [pieces_eq_splitOn, List.splitOn_eq_singleton h]

/-- Behind a text without separators the first piece ends. -/
theorem pieces_append_cons {sep : Char} {cs : List Char} (h : sep ∉ cs) (rest : List Char) :
    pieces sep (cs ++ sep :: rest) = cs :: pieces sep rest := by
  rw [pieces_append, pieces_of_not_mem h]
  rfl

theorem intercalate_pieces (sep : Char) (cs : List Char) :
    [sep].intercalate (pieces sep cs) = cs := by
  rw [pieces_eq_splitOn, List.intercalate_splitOn]

/-- Texts without separators are cut out of what they are joined to. -/
theorem pieces_intercalate {sep : Char} {parts : List (List Char)} (hparts : ∀ part ∈ parts, sep ∉ part)
    (hne : parts ≠ []) : pieces sep ([sep].intercalate parts) = parts := by
  rw [pieces_eq_splitOn, List.splitOn_intercalate sep hparts hne]

/-- No piece has a separator in it, and its characters are in the text. -/
theorem mem_of_mem_pieces {sep : Char} {cs part : List Char} (hpart : part ∈ pieces sep cs) :
    ∀ c ∈ part, c ∈ cs ∧ c ≠ sep := by
  induction cs generalizing part with
  | nil => simp_all
  | cons d cs ih =>
    rw [pieces_cons] at hpart
    split at hpart
    · -- the text starts with a separator, so with an empty piece
      obtain rfl | hbehind := List.mem_cons.1 hpart
      · simp
      · exact fun c hc => ⟨List.mem_cons_of_mem _ (ih hbehind c hc).1, (ih hbehind c hc).2⟩
    · cases hparts : pieces sep cs with
      | nil => exact absurd hparts (pieces_ne_nil sep cs)
      | cons first rest =>
        rw [hparts] at hpart ih
        have hbehind : ∀ part ∈ first :: rest, ∀ c ∈ part, c ∈ d :: cs ∧ c ≠ sep :=
          fun part hmem c hc => ⟨List.mem_cons_of_mem _ (ih hmem c hc).1, (ih hmem c hc).2⟩
        obtain rfl | hmem := List.mem_cons.1 hpart
        · -- the first piece has got one more character
          intro c hc
          obtain rfl | hc := List.mem_cons.1 hc
          · exact ⟨List.mem_cons_self .., by assumption⟩
          · exact hbehind first (List.mem_cons_self ..) c hc
        · exact hbehind part (List.mem_cons_of_mem _ hmem)

/-- A character is a separator, or it is in one of the pieces. -/
theorem exists_mem_pieces {sep c : Char} (hc : c ≠ sep) {cs : List Char} (h : c ∈ cs) :
    ∃ part ∈ pieces sep cs, c ∈ part := by
  induction cs with
  | nil => cases h
  | cons d cs ih =>
    rw [pieces_cons]
    rcases List.mem_cons.1 h with rfl | hbehind
    · rw [if_neg hc]
      cases pieces sep cs with
      | nil => exact ⟨_, List.mem_singleton_self _, List.mem_singleton_self _⟩
      | cons part rest => exact ⟨_, List.mem_cons_self .., List.mem_cons_self ..⟩
    · obtain ⟨part, hpart, hmem⟩ := ih hbehind
      split
      · exact ⟨part, List.mem_cons_of_mem _ hpart, hmem⟩
      · -- the first part has got one more character, and all others are as they were
        cases hparts : pieces sep cs with
        | nil => exact absurd hparts (pieces_ne_nil sep cs)
        | cons first rest =>
          rw [hparts] at hpart
          rcases List.mem_cons.1 hpart with rfl | hrest
          · exact ⟨_, List.mem_cons_self .., List.mem_cons_of_mem _ hmem⟩
          · exact ⟨part, List.mem_cons_of_mem _ hrest, hmem⟩

/-- Every piece that is not empty has a character of the text. -/
theorem length_filter_pieces_le (sep : Char) (cs : List Char) :
    ((pieces sep cs).filter (!·.isEmpty)).length ≤ cs.length := by
  induction cs with
  | nil => simp
  | cons c cs ih =>
    rw [pieces_cons, List.length_cons]
    split
    · exact Nat.le_succ_of_le ih
    · -- only the first piece can have become one more
      cases hpieces : pieces sep cs with
      | nil => exact absurd hpieces (pieces_ne_nil sep cs)
      | cons part rest =>
        rw [hpieces] at ih
        simp only [List.filter_cons] at ih ⊢
        split at ih <;> simp at ih ⊢ <;> omega

end RoleDaemon.Text

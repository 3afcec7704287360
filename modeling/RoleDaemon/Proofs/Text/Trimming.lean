import Mathlib.Data.List.DropRight
import RoleDaemon.Text.Blank

/-!
# Trimmed Texts

A text without the blanks at its two ends neither starts nor ends with a blank, and such a text is left as it
is by trimming.

Main definitions:
- `IsTrimmed`: no blank stands at the two ends

Main statements:
- `isTrimmed_trimChars`: what is trimmed has no blanks at its ends
- `trimChars_of_isTrimmed`: such a text is left as it is
- `trimChars_split`: what is trimmed off is blank
-/

namespace RoleDaemon.Text

/-- The text neither starts nor ends with a blank. -/
structure IsTrimmed (cs : List Char) : Prop where
  start : ∀ c ∈ cs.head?, ¬isBlank c
  finish : ∀ c ∈ cs.getLast?, ¬isBlank c

theorem trimChars_eq (cs : List Char) :
    trimChars cs = (cs.dropWhile isBlank).rdropWhile isBlank := rfl

theorem isTrimmed_trimChars (cs : List Char) : IsTrimmed (trimChars cs) where
  start := by
    intro c hstart
    -- what is left starts as it did before the end was cut off
    obtain ⟨rest, hrest⟩ := List.rdropWhile_prefix isBlank (cs.dropWhile isBlank)
    rw [trimChars_eq] at hstart
    have hhead : c ∈ (cs.dropWhile isBlank).head? := by
      rw [← hrest, List.head?_append]
      simp [Option.mem_def.1 hstart]
    have hplain := List.head?_dropWhile_not isBlank cs
    rw [Option.mem_def.1 hhead] at hplain
    simpa using hplain
  finish := by
    intro c hfinish
    obtain ⟨hne, rfl⟩ := List.mem_getLast?_eq_getLast hfinish
    exact List.rdropWhile_last_not isBlank _ hne

/-- Where there are no blanks at the ends, nothing is cut off. -/
theorem trimChars_of_isTrimmed {cs : List Char} (h : IsTrimmed cs) : trimChars cs = cs := by
  have hstart : cs.dropWhile isBlank = cs := by
    cases cs with
    | nil => rfl
    | cons c cs => exact List.dropWhile_cons_of_neg (h.start c rfl)
  -- nothing is dropped in front, so the end is that of the whole text
  rw [trimChars_eq, hstart, List.rdropWhile_eq_self_iff]
  exact fun hne => h.finish _ (List.getLast?_eq_some_getLast hne)

/-- What is trimmed off at the two ends is blank. -/
theorem trimChars_split (cs : List Char) :
    ∃ front back, cs = front ++ trimChars cs ++ back ∧ ∀ c ∈ front ++ back, isBlank c := by
  refine ⟨cs.takeWhile isBlank, (cs.dropWhile isBlank).rtakeWhile isBlank, ?_, ?_⟩
  · rw [trimChars_eq, List.append_assoc, List.rdropWhile_append_rtakeWhile,
      List.takeWhile_append_dropWhile]
  · intro c hc
    obtain hfront | hback := List.mem_append.1 hc
    · exact List.mem_takeWhile_imp hfront
    · exact List.mem_rtakeWhile_imp hback

/-- Nothing is left of a text when all of it is blank. -/
theorem trimChars_eq_nil_iff {cs : List Char} : trimChars cs = [] ↔ ∀ c ∈ cs, isBlank c := by
  constructor
  · intro hnone
    obtain ⟨front, back, hsplit, hblank⟩ := trimChars_split cs
    rw [hnone, List.append_nil] at hsplit
    exact hsplit ▸ hblank
  · intro hblank
    have hdropped : cs.dropWhile isBlank = [] := List.dropWhile_eq_nil_iff.2 hblank
    rw [trimChars_eq, hdropped]
    rfl

theorem mem_of_mem_trimChars {cs : List Char} {c : Char} (h : c ∈ trimChars cs) : c ∈ cs := by
  obtain ⟨front, back, hsplit, -⟩ := trimChars_split cs
  rw [hsplit]
  simp [h]

end RoleDaemon.Text

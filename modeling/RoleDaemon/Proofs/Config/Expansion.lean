import RoleDaemon.Config.Expansion
import Mathlib.Data.List.Infix
import Mathlib.Data.List.TakeWhile

/-!
# Texts That Are Their Own Expansion

A text in which no dollar sign stands before an opening brace is its own expansion, whatever the
variables are.  A text that refers to variables is its own expansion too while none of them is set, but
for one case: a reference that is never closed is closed by the expansion.

## Architecture

- `RefersTo`: the text refers to something, whether it is closed or not
- `expandChars_opening`, `expandChars_cons`: one step of the scan, at a reference and at any
  other character
- `Mentions`: a name stands behind the start of some reference, inside other names too
- `LeavesOpen`: some start of a reference has no closing brace behind it
- `reference_cases`: where a reference ends, and `leavesOpen_append`: that what stands before a closing
  brace has no part in whether a text leaves a reference open

Main statements:
- `expand_of_plain`: the expansion of a text that refers to nothing
- `expand_of_unset`: the expansion of a text whose variables are not set
-/

namespace RoleDaemon

/-! ## §1 Texts without References -/

/-- The text holds a dollar sign with an opening brace behind it. -/
def RefersTo (s : String) : Prop :=
  ['$', '\x7b'] <:+: s.toList

instance (s : String) : Decidable (RefersTo s) :=
  inferInstanceAs (Decidable (['$', '\x7b'] <:+: s.toList))

theorem expandChars_nil (vars : Variables) : expandChars vars [] = [] := by
  rw [expandChars]

/-- A reference is replaced, and the scan goes on behind it. -/
theorem expandChars_opening (vars : Variables) (rest : List Char) :
    expandChars vars ('$' :: '\x7b' :: rest) =
      referenceValue vars (referenceName rest) ++ expandChars vars (behindReference rest) := by
  rw [expandChars]

/-- A character that no reference starts with stands for itself. -/
theorem expandChars_cons (vars : Variables) {c : Char} {cs : List Char}
    (hother : ∀ rest, c = '$' → cs = '\x7b' :: rest → False) :
    expandChars vars (c :: cs) = c :: expandChars vars cs := by
  rw [expandChars]
  exact hother

theorem expandChars_of_plain (vars : Variables) {cs : List Char} (hplain : ¬['$', '\x7b'] <:+: cs) :
    expandChars vars cs = cs := by
  -- a reference starts with the two characters, so each character stands for itself
  induction cs using expandChars.induct with
  | case1 => exact expandChars_nil vars
  | case2 rest _ => exact absurd ⟨[], rest, rfl⟩ hplain
  | case3 c rest hother ih =>
    have hrest : ¬['$', '\x7b'] <:+: rest := fun h => hplain (h.trans (List.suffix_cons c rest).isInfix)
    rw [expandChars_cons vars hother, ih hrest]

/-- A text that refers to nothing is its own expansion. -/
theorem expand_of_plain (vars : Variables) {s : String} (hplain : ¬RefersTo s) : expand vars s = s := by
  rw [expand, expandChars_of_plain vars hplain, String.ofList_toList]

/-! ## §2 The References of a Text -/

/-- The name stands somewhere in the text, between a dollar sign with an opening brace and the next
    closing brace, or the end of the text. -/
def Mentions (cs name : List Char) : Prop :=
  ∃ before rest, cs = before ++ '$' :: '\x7b' :: rest ∧ name = referenceName rest

/-- Somewhere in the text stand a dollar sign and an opening brace with no closing brace behind them. -/
def LeavesOpen (cs : List Char) : Prop :=
  ∃ before rest, cs = before ++ '$' :: '\x7b' :: rest ∧ '\x7d' ∉ rest

/-- A reference ends with the first closing brace, or else with the text. -/
theorem reference_cases (cs : List Char) :
    ('\x7d' ∉ cs ∧ referenceName cs = cs ∧ behindReference cs = []) ∨
      cs = referenceName cs ++ '\x7d' :: behindReference cs := by
  have hsplit : referenceName cs ++ cs.dropWhile (· ≠ '\x7d') = cs := List.takeWhile_append_dropWhile
  cases hrest : cs.dropWhile (· ≠ '\x7d') with
  | nil =>
    left
    have hall : ∀ c ∈ cs, c ≠ '\x7d' := by simpa using List.dropWhile_eq_nil_iff.1 hrest
    rw [hrest, List.append_nil] at hsplit
    exact ⟨fun h => hall _ h rfl, hsplit, by rw [behindReference, hrest, List.drop_nil]⟩
  | cons c rest =>
    right
    -- the name goes on up to the first brace, so this is what stands behind it
    obtain rfl : c = '\x7d' := by
      have hhead := List.head?_dropWhile_not (· ≠ '\x7d') cs
      rw [hrest] at hhead
      simpa using hhead
    rw [behindReference, hrest, List.drop_one, List.tail_cons, ← hrest, hsplit]

theorem mentions_append {cs name : List Char} (before : List Char) (h : Mentions cs name) :
    Mentions (before ++ cs) name := by
  obtain ⟨front, rest, rfl, rfl⟩ := h
  exact ⟨before ++ front, rest, by rw [List.append_assoc], rfl⟩

/-- A mentioned name stands at the beginning of the text, or behind its first character. -/
theorem mentions_cons {c : Char} {cs name : List Char} :
    Mentions (c :: cs) name ↔
      (∃ rest, c = '$' ∧ cs = '\x7b' :: rest ∧ name = referenceName rest) ∨ Mentions cs name := by
  constructor
  · -- the reference starts with the first character, or behind it
    rintro ⟨_ | ⟨d, before⟩, rest, hcs, rfl⟩
    · obtain ⟨rfl, rfl⟩ := List.cons.inj hcs
      exact .inl ⟨rest, rfl, rfl, rfl⟩
    · exact .inr ⟨before, rest, (List.cons.inj hcs).2, rfl⟩
  · rintro (⟨rest, rfl, rfl, rfl⟩ | h)
    · exact ⟨[], rest, rfl, rfl⟩
    · exact mentions_append [c] h

theorem not_mentions_nil (name : List Char) : ¬Mentions [] name := by
  rintro ⟨before, rest, hcs, -⟩
  simp at hcs

theorem not_leavesOpen_nil : ¬LeavesOpen [] := by
  rintro ⟨before, rest, hcs, -⟩
  simp at hcs

theorem LeavesOpen.append {cs : List Char} (h : LeavesOpen cs) (before : List Char) :
    LeavesOpen (before ++ cs) := by
  obtain ⟨front, rest, rfl, hopen⟩ := h
  exact ⟨before ++ front, rest, by rw [List.append_assoc], hopen⟩

/-- What stands before a closing brace is closed. -/
theorem leavesOpen_append (before cs : List Char) :
    LeavesOpen (before ++ '\x7d' :: cs) ↔ LeavesOpen cs := by
  constructor
  · rintro ⟨front, rest, hcs, hopen⟩
    obtain ⟨between, hfront, hbehind⟩ | ⟨between, -, hbehind⟩ := List.append_eq_append_iff.1 hcs
    · -- the start of the reference stands behind the brace
      cases between with
      | nil => simp at hbehind
      | cons c between => exact ⟨between, rest, (List.cons.inj hbehind).2, hopen⟩
    · -- it stands before the brace, which closes it
      have hmem : '\x7d' ∈ '$' :: '\x7b' :: rest := by simp [hbehind]
      exact absurd (by simpa using hmem) hopen
  · intro h
    simpa using h.append (before ++ ['\x7d'])

/-- A text that does not start with a reference leaves one open behind its first character. -/
theorem leavesOpen_cons {c : Char} {cs : List Char}
    (hother : ∀ rest, c = '$' → cs = '\x7b' :: rest → False) :
    LeavesOpen (c :: cs) ↔ LeavesOpen cs := by
  constructor
  · rintro ⟨_ | ⟨d, before⟩, rest, hcs, hopen⟩
    · exact absurd (List.cons.inj hcs).2 fun h => hother rest (List.cons.inj hcs).1 h
    · exact ⟨before, rest, (List.cons.inj hcs).2, hopen⟩
  · exact fun h => h.append [c]

/-! ## §3 Variables That Are Not Set -/

/-- A reference to a variable that is not set is written out again, with its closing brace. -/
theorem expandChars_of_unset (vars : Variables) {cs : List Char}
    (hunset : ∀ name, Mentions cs name → vars.get? (String.ofList name) = none) :
    (LeavesOpen cs → expandChars vars cs = cs ++ ['\x7d']) ∧
      (¬LeavesOpen cs → expandChars vars cs = cs) := by
  induction cs using expandChars.induct with
  | case1 => exact ⟨fun h => absurd h not_leavesOpen_nil, fun _ => expandChars_nil vars⟩
  | case2 rest ih =>
    have hvalue : referenceValue vars (referenceName rest) =
        '$' :: '\x7b' :: (referenceName rest ++ ['\x7d']) := by
      rw [referenceValue, hunset _ ⟨[], rest, rfl, rfl⟩]
    rw [expandChars_opening, hvalue]
    obtain ⟨hnone, hname, hbehind⟩ | hsplit := reference_cases rest
    · -- the reference goes to the end of the text, and gets the brace that it lacks
      have hopen : LeavesOpen ('$' :: '\x7b' :: rest) := ⟨[], rest, rfl, hnone⟩
      refine ⟨fun _ => ?_, fun hclosed => absurd hopen hclosed⟩
      rw [hname, hbehind, expandChars_nil]
      simp
    · -- what stands behind the reference decides
      have htext : '$' :: '\x7b' :: rest =
          ('$' :: '\x7b' :: referenceName rest) ++ '\x7d' :: behindReference rest := by
        rw [List.cons_append, List.cons_append, ← hsplit]
      obtain ⟨hopen, hclosed⟩ := ih fun name hname => hunset name <| by
        rw [htext]
        simpa using mentions_append ('$' :: '\x7b' :: referenceName rest ++ ['\x7d']) hname
      rw [htext, leavesOpen_append]
      refine ⟨fun h => ?_, fun h => ?_⟩
      · rw [hopen h]
        simp
      · rw [hclosed h]
        simp
  | case3 c rest hother ih =>
    have hrest := ih fun name hname => hunset name (mentions_append [c] hname)
    rw [expandChars_cons vars hother, leavesOpen_cons hother]
    exact ⟨fun h => by rw [hrest.1 h, List.cons_append], fun h => by rw [hrest.2 h]⟩

/-- **Variables that are not set leave a text alone.**  While no variable is set whose name stands behind
the start of a reference, up to the next closing brace or to the end, the expansion of the text is the text
itself, unless the text leaves a reference open: then the expansion closes it. -/
theorem expand_of_unset (vars : Variables) {s : String}
    (hunset : ∀ name, Mentions s.toList name → vars.get? (String.ofList name) = none) :
    (expand vars s = s ↔ ¬LeavesOpen s.toList) ∧
      (LeavesOpen s.toList → expand vars s = s ++ "\x7d") := by
  obtain ⟨hopen, hclosed⟩ := expandChars_of_unset vars hunset
  have hclose : LeavesOpen s.toList → expand vars s = s ++ "\x7d" := by
    intro h
    rw [expand, hopen h, String.ofList_append, String.ofList_toList]
  refine ⟨⟨fun hself h => ?_, fun h => ?_⟩, hclose⟩
  · -- the closed text is longer
    have hlength := congrArg String.length (hself.symm.trans (hclose h))
    simp at hlength
  · rw [expand, hclosed h, String.ofList_toList]

/-- A dollar sign that starts nothing, an empty name, and a name with the start of a reference in it. -/
theorem expand_of_unset_nested :
    let vars : Variables := ⟨[("NODE", "n7")]⟩
    let s := "$$\x7b\x7d$/$\x7bHOST$\x7bPORT\x7d\x7d"
    (∀ name, Mentions s.toList name → vars.get? (String.ofList name) = none) ∧
      ¬LeavesOpen s.toList ∧ expand vars s = s := by
  intro vars s
  have hunset : ∀ name, Mentions s.toList name → vars.get? (String.ofList name) = none := by
    intro name hname
    have hnames : name ∈ [[], "HOST$\x7bPORT".toList, "PORT".toList] := by
      simpa [s, mentions_cons, not_mentions_nil, referenceName] using hname
    clear hname
    revert name
    decide
  have hclosed : ¬LeavesOpen s.toList := by
    have hend : s.toList = "$$\x7b\x7d$/$\x7bHOST$\x7bPORT\x7d".toList ++ '\x7d' :: [] := by decide
    rw [hend, leavesOpen_append]
    exact not_leavesOpen_nil
  exact ⟨hunset, hclosed, (expand_of_unset vars hunset).1.2 hclosed⟩

/-- No variable is set, and a reference that is never closed gets a closing brace. -/
theorem expand_closesOpen :
    let vars : Variables := ⟨[]⟩
    let s := "$\x7bOPEN"
    (∀ name, Mentions s.toList name → vars.get? (String.ofList name) = none) ∧
      expand vars s = "$\x7bOPEN\x7d" ∧ expand vars s ≠ s := by
  intro vars s
  have hunset : ∀ name, vars.get? name = none := fun name => by simp [vars, Variables.get?]
  have hexpand : expand vars s = "$\x7bOPEN\x7d" := by decide +kernel
  exact ⟨fun name _ => hunset _, hexpand, by rw [hexpand]; decide⟩

end RoleDaemon

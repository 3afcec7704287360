import Mathlib.Data.List.DropRight
import RoleDaemon.Files.Path
import RoleDaemon.Proofs.Text.Splitting

/-!
# The Name at the End of a Path

A path ends in a name, which may have idle pieces behind it, and stands below another path, which may have
idle pieces between it and the name.  The grammar of this says nothing of how a path is taken apart; that the
name and the path before it are found as the grammar has them is the main statement.

## Architecture

- `slashed`: pieces, each behind a slash; `pieces_slashed`: they are the pieces of what is written so
- `EndsIn`: the grammar
- `lastName?_eq`: the name is the last piece that is not idle
- `EndsIn.sound`, `endsIn_of_lastName?`: the two directions of the main statement

Main statements:
- `endsIn_iff`: a path ends in a name below another path just when these are what is found
-/

namespace RoleDaemon.Path

open Text

/-! ## §1 The Grammar -/

/-- The pieces one after the other, each behind a slash. -/
def slashed (ps : List (List Char)) : List Char :=
  ps.flatMap ('/' :: ·)

/-- A piece that leads to an entry of the directory it is looked up in. -/
structure IsName (name : List Char) : Prop where
  isPlain : '/' ∉ name
  isVisible : ¬isIdle name
  staysBelow : name ≠ ['.', '.']

/-- A path other than the root with no idle pieces at its end; a single dot at its start is none. -/
inductive IsTight : List Char → Prop
  | first {piece : List Char} : '/' ∉ piece → piece ≠ [] → IsTight piece
  | inner {front piece : List Char} : '/' ∉ piece → ¬isIdle piece → IsTight (front ++ '/' :: piece)

/-- The path ends in the name, with idle pieces behind it, and before the name is the other path, with idle
    pieces between them. -/
inductive EndsIn : (path before name : List Char) → Prop
  | alone {name : List Char} {tail : List (List Char)} :
      IsName name → (∀ piece ∈ tail, isIdle piece) →
      EndsIn (name ++ slashed tail) [] name
  | belowRoot {name : List Char} {gap tail : List (List Char)} :
      IsName name → (∀ piece ∈ gap, isIdle piece) → (∀ piece ∈ tail, isIdle piece) →
      EndsIn (slashed gap ++ '/' :: (name ++ slashed tail)) ['/'] name
  | below {before name : List Char} {gap tail : List (List Char)} :
      IsTight before → IsName name →
      (∀ piece ∈ gap, isIdle piece) → (∀ piece ∈ tail, isIdle piece) →
      EndsIn (before ++ slashed gap ++ '/' :: (name ++ slashed tail)) before name

/-! ## §2 Pieces -/

theorem slashed_append (ps qs : List (List Char)) : slashed (ps ++ qs) = slashed ps ++ slashed qs :=
  List.flatMap_append

theorem slashed_cons (p : List Char) (ps : List (List Char)) :
    slashed (p :: ps) = '/' :: (p ++ slashed ps) := by
  simp [slashed]

theorem not_mem_of_isIdle {piece : List Char} (h : isIdle piece) : '/' ∉ piece := by
  obtain hempty | hdot : piece = [] ∨ piece = ['.'] := by simpa [isIdle] using h
  · simp [hempty]
  · simp [hdot]

theorem pieces_slashed {first : List Char} {behind : List (List Char)} (hfirst : '/' ∉ first)
    (hbehind : ∀ piece ∈ behind, '/' ∉ piece) :
    pieces '/' (first ++ slashed behind) = first :: behind := by
  induction behind generalizing first with
  | nil =>
    rw [slashed, List.flatMap_nil, List.append_nil]
    exact pieces_of_not_mem hfirst
  | cons piece behind ih =>
    obtain ⟨hpiece, hrest⟩ := List.forall_mem_cons.1 hbehind
    rw [slashed_cons, pieces_append_cons hfirst, ih hpiece hrest]

theorem intercalate_slashed (first : List Char) (behind : List (List Char)) :
    ['/'].intercalate (first :: behind) = first ++ slashed behind := by
  induction behind generalizing first with
  | nil => simp [slashed]
  | cons piece behind ih =>
    rw [List.intercalate_cons_cons, ih, slashed_cons]
    simp

/-- A path is its first piece, and the others behind their slashes. -/
theorem exists_pieces (path : String) :
    ∃ first behind, pieces '/' path.toList = first :: behind ∧
      path.toList = first ++ slashed behind ∧ '/' ∉ first ∧ ∀ piece ∈ behind, '/' ∉ piece := by
  cases hpieces : pieces '/' path.toList with
  | nil => exact absurd hpieces (pieces_ne_nil _ _)
  | cons first behind =>
    have hpath := intercalate_pieces '/' path.toList
    rw [hpieces, intercalate_slashed] at hpath
    have hplain : ∀ piece ∈ first :: behind, '/' ∉ piece := fun piece hpiece h =>
      (mem_of_mem_pieces (hpieces ▸ hpiece) '/' h).2 rfl
    obtain ⟨hfirst, hbehind⟩ := List.forall_mem_cons.1 hplain
    exact ⟨first, behind, rfl, hpath.symm, hfirst, hbehind⟩

theorem dropIdle_eq (ps : List (List Char)) : dropIdle ps = ps.rdropWhile isIdle := rfl

/-- Idle pieces at the end are dropped. -/
theorem dropIdle_append {idle : List (List Char)} (h : ∀ piece ∈ idle, isIdle piece)
    (ps : List (List Char)) : dropIdle (ps ++ idle) = dropIdle ps := by
  have hreversed : ∀ piece ∈ idle.reverse, isIdle piece := by simpa using h
  rw [dropIdle, List.reverse_append, List.dropWhile_append_of_pos hreversed]
  rfl

/-- A piece that is not idle is not dropped, and nothing before it is. -/
theorem dropIdle_concat {piece : List Char} (h : ¬isIdle piece) (ps : List (List Char)) :
    dropIdle (ps ++ [piece]) = ps ++ [piece] := by
  rw [dropIdle_eq, List.rdropWhile_concat_neg _ _ _ h]

/-- What is left of some pieces is empty, or it ends in one that is not idle. -/
theorem dropIdle_cases (ps : List (List Char)) :
    ∃ idle, ps = dropIdle ps ++ idle ∧ (∀ piece ∈ idle, isIdle piece) ∧
      (dropIdle ps = [] ∨ ∃ front piece, dropIdle ps = front ++ [piece] ∧ ¬isIdle piece) := by
  refine ⟨ps.rtakeWhile isIdle, List.rdropWhile_append_rtakeWhile.symm,
    fun piece => List.mem_rtakeWhile_imp, ?_⟩
  obtain hnone | ⟨front, piece, hsome⟩ := List.eq_nil_or_concat (dropIdle ps)
  · exact .inl hnone
  · have hlast := List.rdropWhile_last_not isIdle ps (by simp [← dropIdle_eq, hsome])
    simp only [← dropIdle_eq, hsome, List.concat_eq_append, List.getLast_append_singleton] at hlast
    exact .inr ⟨front, piece, by rw [hsome, List.concat_eq_append], hlast⟩

/-- The name at the end of a path is its last piece that is not idle. -/
theorem lastName?_eq (path : String) :
    lastName? path =
      (((pieces '/' path.toList).reverse.find? (!isIdle ·)).map String.ofList).filter (· ≠ "..") := by
  have hvisible : ∀ piece : List Char, (decide ((!piece.isEmpty) = true ∧
      ((fun p => !decide (p = ".")) ∘ String.ofList) piece = true)) = !isIdle piece := by
    intro piece
    have hdot : String.ofList piece = "." ↔ piece = ['.'] := by
      rw [← String.toList_inj, String.toList_ofList]
      rfl
    by_cases hempty : piece.isEmpty <;> by_cases hone : piece = ['.'] <;>
      simp_all [isIdle, Function.comp_apply]
  rw [lastName?, dropDots, List.getLast?_reverse]
  congr 1
  -- the last part that is no dot, found from the end
  have hfind := List.find?_eq_head?_dropWhile_not (fun p => !decide (p = ".")) (parts path).reverse
  simp only [Bool.not_not] at hfind
  rw [← hfind, parts, ← List.map_reverse, List.find?_map, ← List.filter_reverse, List.find?_filter]
  simp only [hvisible]

/-! ## §3 What Is Found -/

/-- The piece is the last one that is not idle, so it is the name, unless it leads to the parent. -/
theorem lastName?_of_pieces {path : String} {ps tail : List (List Char)} {piece : List Char}
    (hpieces : pieces '/' path.toList = ps ++ piece :: tail) (hpiece : ¬isIdle piece)
    (htail : ∀ piece ∈ tail, isIdle piece) :
    lastName? path = (some (String.ofList piece)).filter (· ≠ "..") := by
  have hnone : tail.reverse.find? (!isIdle ·) = none := by simpa using htail
  have hfound : (ps ++ piece :: tail).reverse.find? (!isIdle ·) = some piece := by
    simp [List.find?_append, hnone, hpiece]
  rw [lastName?_eq, hpieces, hfound]
  rfl

theorem filter_of_isName {name : List Char} (h : IsName name) :
    (some (String.ofList name)).filter (· ≠ "..") = some (String.ofList name) := by
  have hne : String.ofList name ≠ ".." := by
    rw [ne_eq, ← String.toList_inj, String.toList_ofList]
    exact h.staysBelow
  simp [Option.filter, hne]

/-- What passes as a name is one. -/
theorem isName_of_filter {piece : List Char} {name : String}
    (h : (some (String.ofList piece)).filter (· ≠ "..") = some name) (hplain : '/' ∉ piece)
    (hvisible : ¬isIdle piece) : name.toList = piece ∧ IsName piece := by
  obtain ⟨hsome, hbelow⟩ := Option.filter_eq_some_iff.1 h
  obtain rfl := Option.some.inj hsome
  rw [String.toList_ofList]
  refine ⟨rfl, hplain, hvisible, ?_⟩
  rintro rfl
  exact absurd hbelow (by decide)

/-- Where some piece behind the first is not idle, the last such piece is cut off, with the idle ones around
    it; what is before is a path again. -/
theorem parent_of_pieces {path : String} {first piece : List Char} {between gap tail : List (List Char)}
    (hpieces : pieces '/' path.toList = first :: (between ++ gap ++ piece :: tail))
    (hbetween : dropIdle between = between) (hgap : ∀ piece ∈ gap, isIdle piece)
    (hpiece : ¬isIdle piece) (htail : ∀ piece ∈ tail, isIdle piece) :
    parent path =
      if first = [] ∧ between = [] then "/" else String.ofList (first ++ slashed between) := by
  have hdropped : dropIdle (between ++ gap ++ piece :: tail) = between ++ gap ++ [piece] := by
    have hsplit : between ++ gap ++ piece :: tail = (between ++ gap ++ [piece]) ++ tail := by simp
    rw [hsplit, dropIdle_append htail, dropIdle_concat hpiece]
  have hbefore : dropIdle (between ++ gap ++ [piece]).dropLast = between := by
    rw [List.dropLast_concat, dropIdle_append hgap, hbetween]
  have hsome : between ++ gap ++ [piece] ≠ [] := by simp
  rw [parent, hpieces]
  simp only [hdropped, if_neg hsome, hbefore, intercalate_slashed]

/-- A name behind other pieces is found, and so is the path before it. -/
theorem found_slashed (first : List Char) (between : List (List Char)) {name : List Char}
    {gap tail : List (List Char)} (hfirst : '/' ∉ first) (hplain : ∀ piece ∈ between, '/' ∉ piece)
    (hbetween : dropIdle between = between) (hname : IsName name)
    (hgap : ∀ piece ∈ gap, isIdle piece) (htail : ∀ piece ∈ tail, isIdle piece) :
    let path := String.ofList (first ++ slashed between ++ slashed gap ++ '/' :: (name ++ slashed tail))
    lastName? path = some (String.ofList name) ∧
      parent path =
        if first = [] ∧ between = [] then "/" else String.ofList (first ++ slashed between) := by
  intro path
  have hall : ∀ piece ∈ between ++ gap ++ name :: tail, '/' ∉ piece := by
    intro piece hmem
    simp only [List.mem_append, List.mem_cons] at hmem
    obtain (hmem | hmem) | rfl | hmem := hmem
    · exact hplain piece hmem
    · exact not_mem_of_isIdle (hgap piece hmem)
    · exact hname.isPlain
    · exact not_mem_of_isIdle (htail piece hmem)
  have hpath : path.toList = first ++ slashed (between ++ gap ++ name :: tail) := by
    simp only [path, String.toList_ofList, slashed_append, slashed_cons, List.append_assoc]
  have hpieces : pieces '/' path.toList = first :: (between ++ gap ++ name :: tail) := by
    rw [hpath, pieces_slashed hfirst hall]
  refine ⟨?_, parent_of_pieces hpieces hbetween hgap hname.isVisible htail⟩
  have hlast : pieces '/' path.toList = (first :: (between ++ gap)) ++ name :: tail := hpieces
  rw [lastName?_of_pieces hlast hname.isVisible htail, filter_of_isName hname]

/-- A tight path has no idle pieces at its end, and is not the root. -/
theorem IsTight.exists_pieces {path : List Char} (h : IsTight path) :
    ∃ first between, path = first ++ slashed between ∧ '/' ∉ first ∧
      (∀ piece ∈ between, '/' ∉ piece) ∧ dropIdle between = between ∧
      ¬(first = [] ∧ between = []) := by
  cases h with
  | first hplain hne =>
    exact ⟨path, [], by simp [slashed], hplain, by simp, rfl, fun h => hne h.1⟩
  | @inner front piece hplain hvisible =>
    obtain ⟨first, between, -, hfront, hfirst, hbetween⟩ := Path.exists_pieces (String.ofList front)
    rw [String.toList_ofList] at hfront
    refine ⟨first, between ++ [piece], ?_, hfirst, ?_, dropIdle_concat hvisible between, by simp⟩
    · rw [hfront, slashed_append, slashed_cons]
      simp [slashed]
    · intro other hmem
      obtain hmem | hmem := List.mem_append.1 hmem
      · exact hbetween other hmem
      · exact List.mem_singleton.1 hmem ▸ hplain

/-- A path that ends in a name, as the grammar has it, is found to. -/
theorem EndsIn.sound {path before name : List Char} (h : EndsIn path before name) :
    lastName? (String.ofList path) = some (String.ofList name) ∧
      parent (String.ofList path) = String.ofList before := by
  cases h with
  | @alone _ tail hname htail =>
    have hplain : ∀ piece ∈ tail, '/' ∉ piece :=
      fun piece hpiece => not_mem_of_isIdle (htail piece hpiece)
    have hpieces : pieces '/' (String.ofList (name ++ slashed tail)).toList = [] ++ name :: tail := by
      rw [String.toList_ofList]
      exact pieces_slashed hname.isPlain hplain
    refine ⟨?_, ?_⟩
    · rw [lastName?_of_pieces hpieces hname.isVisible htail, filter_of_isName hname]
    · have hnone : dropIdle tail = [] := dropIdle_append htail []
      rw [parent, hpieces]
      simp only [List.nil_append, hnone, if_true]
  | belowRoot hname hgap htail =>
    -- the first piece is empty, and so is what stands between it and the gap
    exact found_slashed [] [] List.not_mem_nil (by simp) rfl hname hgap htail
  | below hbefore hname hgap htail =>
    obtain ⟨first, between, rfl, hfirst, hplain, htight, hroot⟩ := hbefore.exists_pieces
    have hfound := found_slashed first between hfirst hplain htight hname hgap htail
    rwa [if_neg hroot] at hfound

/-- Where the name is not the first piece, it stands below the path before it. -/
theorem endsIn_parent {path : String} {first name : List Char} {front tail : List (List Char)}
    (hpieces : pieces '/' path.toList = first :: (front ++ name :: tail))
    (hplain : ∀ piece ∈ first :: (front ++ name :: tail), '/' ∉ piece)
    (hpath : path.toList = first ++ slashed (front ++ name :: tail))
    (hname : IsName name) (htail : ∀ piece ∈ tail, isIdle piece) :
    EndsIn path.toList (parent path).toList name := by
  -- the pieces before the name are cut at the gap
  obtain ⟨gap, hfront, hgap, hbefore⟩ := dropIdle_cases front
  generalize dropIdle front = between at hfront hbefore
  subst hfront
  have htight : dropIdle between = between := by
    obtain rfl | ⟨init, last, rfl, hvisible⟩ := hbefore
    · rfl
    · exact dropIdle_concat hvisible init
  have hcut : path.toList = first ++ slashed between ++ slashed gap ++ '/' :: (name ++ slashed tail) := by
    simp only [hpath, slashed_append, slashed_cons, List.append_assoc]
  rw [parent_of_pieces hpieces htight hgap hname.isVisible htail, hcut]
  by_cases hroot : first = [] ∧ between = []
  · rw [if_pos hroot, hroot.1, hroot.2]
    exact EndsIn.belowRoot hname hgap htail
  · rw [if_neg hroot, String.toList_ofList]
    refine EndsIn.below ?_ hname hgap htail
    obtain rfl | ⟨init, last, rfl, hvisible⟩ := hbefore
    · -- nothing but the first piece is before the name
      rw [slashed, List.flatMap_nil, List.append_nil]
      exact IsTight.first (hplain first (List.mem_cons_self ..)) fun hempty => hroot ⟨hempty, rfl⟩
    · have hend : first ++ slashed (init ++ [last]) = first ++ slashed init ++ '/' :: last := by
        simp [slashed]
      rw [hend]
      exact IsTight.inner (hplain last (by simp)) hvisible

/-- A name that is found stands at the end of the path, as the grammar has it. -/
theorem endsIn_of_lastName? {path name : String} (h : lastName? path = some name) :
    EndsIn path.toList (parent path).toList name.toList := by
  obtain ⟨first, behind, hpieces, hpath, hfirst, hbehind⟩ := exists_pieces path
  obtain ⟨tail, hsplit, htail, hnone | ⟨front, piece, hlast, hpiece⟩⟩ := dropIdle_cases behind
  · -- all pieces behind the first are idle, so the first is the name
    rw [hnone, List.nil_append] at hsplit
    subst hsplit
    have hvisible : ¬isIdle first := by
      intro hidle
      have hall : ∀ piece ∈ (first :: behind).reverse, isIdle piece := by
        intro piece hmem
        obtain rfl | hmem := List.mem_cons.1 (List.mem_reverse.1 hmem)
        · exact hidle
        · exact htail piece hmem
      rw [lastName?_eq, hpieces, List.find?_eq_none.2 (by simpa using hall)] at h
      cases h
    have hpieces' : pieces '/' path.toList = [] ++ first :: behind := hpieces
    rw [lastName?_of_pieces hpieces' hvisible htail] at h
    obtain ⟨hchars, hname⟩ := isName_of_filter h hfirst hvisible
    have hparent : parent path = "" := by
      rw [parent, hpieces]
      simp only [hnone, if_true]
    rw [hparent, hpath, hchars]
    exact EndsIn.alone hname htail
  · -- the last piece that is not idle is the name
    have hbehind' : behind = front ++ piece :: tail := by
      rw [hsplit, hlast]
      simp
    subst hbehind'
    have hpieces' : pieces '/' path.toList = (first :: front) ++ piece :: tail := hpieces
    rw [lastName?_of_pieces hpieces' hpiece htail] at h
    obtain ⟨hchars, hname⟩ := isName_of_filter h (hbehind piece (by simp)) hpiece
    rw [hchars]
    exact endsIn_parent hpieces (List.forall_mem_cons.2 ⟨hfirst, hbehind⟩) hpath hname htail

/-- **The name at the end of a path** and the path before it are found just when the path ends so. -/
theorem endsIn_iff (path before name : String) :
    EndsIn path.toList before.toList name.toList ↔ lastName? path = some name ∧ parent path = before := by
  constructor
  · intro h
    simpa only [String.ofList_toList] using h.sound
  · rintro ⟨hname, rfl⟩
    exact endsIn_of_lastName? hname

end RoleDaemon.Path

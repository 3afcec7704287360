import RoleDaemon.Proofs.Config.Expansion

/-!
# Templates of Texts

A template is a list of segments, which are literals and references to variables.  Written as a text and
expanded, it gives what its segments stand for: a literal stands for itself, and so does a reference to a
variable that is not set; the value of a variable is put in as it is, whatever it looks like.

A text does not tell where its literals end, so a template can be read back only when no start of a
reference comes about inside its literals, or where two of them meet.

## Architecture

- `Segment.written`, `Segment.value`: how a segment is written, and what it stands for
- `Template.IsReadable`: the references end where their names do, and the literals start none
- `expandChars_append_reference`, `expandChars_reference`: the scan passes over plain text up to the next
  reference, and starts afresh behind it
- `expandChars_segments`: the scan goes through the segments, by induction on them; the literals that
  it has passed since the last reference are carried along

Main statements:
- `Template.expand_text`: the expansion of a written template
-/

namespace RoleDaemon

/-! ## §1 Segments -/

/-- A part of a template. -/
inductive Segment where
  /-- Text that stands for itself. -/
  | literal (text : String)
  /-- The name of a variable. -/
  | reference (name : String)
  deriving DecidableEq, Repr

namespace Segment

/-- The segment as a part of a text. -/
def written : Segment → List Char
  | literal text => text.toList
  | reference name => '$' :: '\x7b' :: (name.toList ++ ['\x7d'])

/-- What the segment stands for: a reference to a variable that is not set stands for itself. -/
def value (vars : Variables) : Segment → List Char
  | literal text => text.toList
  | reference name =>
    match vars.get? name with
    | some value => value.toList
    | none => (reference name).written

def isLiteral : Segment → Bool
  | literal _ => true
  | reference _ => false

/-- The name of a reference holds no closing brace. -/
def isClosed : Segment → Bool
  | literal _ => true
  | reference name => '\x7d' ∉ name.toList

theorem value_of_isLiteral (vars : Variables) {segment : Segment} (h : segment.isLiteral) :
    segment.value vars = segment.written := by
  cases segment with
  | literal text => rfl
  | reference name => cases h

end Segment

namespace Template

/-- The template as a text. -/
def text (segments : List Segment) : String :=
  String.ofList (segments.flatMap Segment.written)

/-- What the template stands for. -/
def meaning (vars : Variables) (segments : List Segment) : String :=
  String.ofList (segments.flatMap (Segment.value vars))

/-- No name holds a closing brace, and no literals that follow each other make up the start of a
    reference. -/
structure IsReadable (segments : List Segment) : Prop where
  names : ∀ segment ∈ segments, segment.isClosed
  literals : ∀ run, run <:+: segments → (∀ segment ∈ run, segment.isLiteral) → ¬RefersTo (text run)

/-- A part of a template that can be read back can be read back. -/
theorem IsReadable.of_infix {part segments : List Segment} (h : IsReadable segments)
    (hpart : part <:+: segments) : IsReadable part where
  names segment hmem := h.names segment (hpart.subset hmem)
  literals run hrun := h.literals run (hrun.trans hpart)

/-- Literals that follow each other start no reference. -/
theorem IsReadable.isPlain {run segments : List Segment} (h : IsReadable segments)
    (hrun : run <:+: segments) (hliterals : ∀ segment ∈ run, segment.isLiteral) :
    ¬['$', '\x7b'] <:+: run.flatMap Segment.written := by
  have hplain := h.literals run hrun hliterals
  rwa [RefersTo, text, String.toList_ofList] at hplain

/-- The literals that follow each other are among finitely many parts of the template. -/
instance (segments : List Segment) : Decidable (IsReadable segments) :=
  decidable_of_iff
    ((∀ segment ∈ segments, segment.isClosed) ∧
      ∀ tail ∈ segments.tails, ∀ run ∈ tail.inits,
        (∀ segment ∈ run, segment.isLiteral) → ¬RefersTo (text run)) <| by
    constructor
    · rintro ⟨hnames, hliterals⟩
      refine ⟨hnames, fun run hrun => ?_⟩
      obtain ⟨tail, hstart, hend⟩ := List.infix_iff_prefix_suffix.1 hrun
      exact hliterals tail ((List.mem_tails _ _).2 hend) run ((List.mem_inits _ _).2 hstart)
    · intro h
      refine ⟨h.names, fun tail htail run hrun => h.literals run ?_⟩
      exact ((List.mem_inits _ _).1 hrun).isInfix.trans ((List.mem_tails _ _).1 htail).isInfix

/-! ## §2 The Scan -/

/-- Plain text before a reference stands for itself, also when it ends with a dollar sign. -/
theorem expandChars_append_reference (vars : Variables) {cs : List Char}
    (hplain : ¬['$', '\x7b'] <:+: cs) (rest : List Char) :
    expandChars vars (cs ++ '$' :: '\x7b' :: rest) = cs ++ expandChars vars ('$' :: '\x7b' :: rest) := by
  induction cs with
  | nil => rfl
  | cons c cs ih =>
    have hcs : ¬['$', '\x7b'] <:+: cs := fun h => hplain (h.trans (List.suffix_cons c cs).isInfix)
    -- no reference starts here: the next character is a dollar sign, or it is still in the plain text
    have hother : ∀ behind, c = '$' → cs ++ '$' :: '\x7b' :: rest = '\x7b' :: behind → False := by
      rintro behind rfl hbehind
      cases cs with
      | nil => simp at hbehind
      | cons d cs =>
        obtain rfl : d = '\x7b' := (List.cons.inj hbehind).1
        exact hplain ⟨[], cs, rfl⟩
    rw [List.cons_append, expandChars_cons vars hother, ih hcs, List.cons_append]

/-- Behind a reference the scan starts afresh, whatever the value of the variable is. -/
theorem expandChars_reference (vars : Variables) {name : List Char} (hname : '\x7d' ∉ name)
    (rest : List Char) :
    expandChars vars ('$' :: '\x7b' :: (name ++ '\x7d' :: rest)) =
      referenceValue vars name ++ expandChars vars rest := by
  have hopen : ∀ c ∈ name, decide (c ≠ '\x7d') = true := by
    intro c hc
    apply decide_eq_true
    rintro rfl
    exact hname hc
  have hends : referenceName (name ++ '\x7d' :: rest) = name := by
    rw [referenceName, List.takeWhile_append_of_pos hopen, List.takeWhile_cons_of_neg (by decide),
      List.append_nil]
  have hbehind : behindReference (name ++ '\x7d' :: rest) = rest := by
    rw [behindReference, List.dropWhile_append_of_pos hopen, List.dropWhile_cons_of_neg (by decide)]
    rfl
  rw [expandChars_opening, hends, hbehind]

/-- Literals that are read back stand for themselves. -/
theorem flatMap_value_of_literals (vars : Variables) {run : List Segment}
    (h : ∀ segment ∈ run, segment.isLiteral) :
    run.flatMap (Segment.value vars) = run.flatMap Segment.written :=
  List.flatMap_congr fun segment hmem => segment.value_of_isLiteral vars (h segment hmem)

/-- The scan goes through the segments of a template; `passed` are the literals since the last
    reference. -/
theorem expandChars_segments (vars : Variables) {segments passed : List Segment}
    (hpassed : ∀ segment ∈ passed, segment.isLiteral) (h : IsReadable (passed ++ segments)) :
    expandChars vars (passed.flatMap Segment.written ++ segments.flatMap Segment.written) =
      passed.flatMap (Segment.value vars) ++ segments.flatMap (Segment.value vars) := by
  induction segments generalizing passed with
  | nil =>
    simp only [List.flatMap_nil, List.append_nil]
    rw [expandChars_of_plain vars (h.isPlain (List.prefix_append _ _).isInfix hpassed),
      flatMap_value_of_literals vars hpassed]
  | cons segment segments ih =>
    cases segment with
    | literal text =>
      -- the literal joins those that were passed before
      have hjoined : passed ++ Segment.literal text :: segments =
          (passed ++ [.literal text]) ++ segments := by simp
      have hliterals : ∀ segment ∈ passed ++ [Segment.literal text], segment.isLiteral := by
        intro segment hmem
        obtain hmem | hmem := List.mem_append.1 hmem
        · exact hpassed segment hmem
        · rw [List.mem_singleton.1 hmem]
          rfl
      have hall := ih hliterals (hjoined ▸ h)
      simpa [Segment.written, Segment.value] using hall
    | reference name =>
      -- the literals end here, and the rest is scanned on its own
      have hplain := h.isPlain (List.prefix_append passed _).isInfix hpassed
      have hname : '\x7d' ∉ name.toList := by
        simpa [Segment.isClosed] using h.names (.reference name) (by simp)
      have hrest : IsReadable segments :=
        h.of_infix ⟨passed ++ [.reference name], [], by simp⟩
      have hvalue : referenceValue vars name.toList = (Segment.reference name).value vars := by
        simp only [referenceValue, String.ofList_toList]
        rfl
      have hbehind : expandChars vars (segments.flatMap Segment.written) =
          segments.flatMap (Segment.value vars) := by
        have hnone : ∀ segment ∈ ([] : List Segment), segment.isLiteral := by simp
        exact ih hnone hrest
      calc expandChars vars (passed.flatMap Segment.written ++
              (Segment.reference name :: segments).flatMap Segment.written)
          = expandChars vars (passed.flatMap Segment.written ++
              '$' :: '\x7b' :: (name.toList ++ '\x7d' :: segments.flatMap Segment.written)) := by
            simp [Segment.written]
        _ = passed.flatMap Segment.written ++
              (referenceValue vars name.toList ++
                expandChars vars (segments.flatMap Segment.written)) := by
            rw [expandChars_append_reference vars hplain, expandChars_reference vars hname]
        _ = passed.flatMap (Segment.value vars) ++
              (Segment.reference name :: segments).flatMap (Segment.value vars) := by
            rw [hvalue, hbehind, flatMap_value_of_literals vars hpassed, List.flatMap_cons]

/-! ## §3 Written Templates -/

theorem expand_eq_meaning (vars : Variables) {segments : List Segment} (h : IsReadable segments) :
    expand vars (text segments) = meaning vars segments := by
  have hnone : ∀ segment ∈ ([] : List Segment), segment.isLiteral := by simp
  have hscan : expandChars vars (segments.flatMap Segment.written) =
      segments.flatMap (Segment.value vars) := expandChars_segments vars hnone h
  rw [expand, text, String.toList_ofList, hscan, meaning]

/-- **The expansion of a text is the meaning of its template.**  The text of a template in which no name
holds a closing brace, and no literals next to each other make up the start of a reference, expands to
what the segments stand for, one after the other.

The value of a variable that is set goes into the result as it is: what stands before the reference and
what stands behind it are expanded as if they stood alone, and the value is not expanded at all. -/
theorem expand_text (vars : Variables) {segments : List Segment} (h : IsReadable segments) :
    expand vars (text segments) = meaning vars segments ∧
      ∀ before name value after, segments = before ++ .reference name :: after →
        vars.get? name = some value →
        expand vars (text segments) =
          expand vars (text before) ++ value ++ expand vars (text after) := by
  refine ⟨expand_eq_meaning vars h, ?_⟩
  rintro before name value after rfl hset
  have hbefore : IsReadable before := h.of_infix (List.prefix_append _ _).isInfix
  have hafter : IsReadable after := h.of_infix ⟨before ++ [.reference name], [], by simp⟩
  rw [expand_eq_meaning vars h, expand_eq_meaning vars hbefore, expand_eq_meaning vars hafter]
  -- the three parts side by side
  have hvalue : (Segment.reference name).value vars = value.toList := by
    simp only [Segment.value, hset]
  simp only [meaning, List.flatMap_append, List.flatMap_cons, hvalue, String.ofList_append,
    String.ofList_toList, String.append_assoc]

/-- Literals that end with a dollar sign, a name with the start of a reference in it, an empty name, and
    values that look like references, or like the start of one before a literal that would complete it. -/
theorem expand_text_lookalikes :
    let vars : Variables := ⟨[("NODE", "$\x7bHOST\x7d"), ("HOST", "n7"), ("SIGN", "$")]⟩
    let segments : List Segment :=
      [.literal "$", .reference "NODE", .literal "/", .reference "SIGN", .literal "\x7bHOST\x7d$",
        .reference "", .reference "$\x7bHOST", .literal "$", .literal "$"]
    IsReadable segments ∧
      text segments = "$$\x7bNODE\x7d/$\x7bSIGN\x7d\x7bHOST\x7d$$\x7b\x7d$\x7b$\x7bHOST\x7d$$" ∧
      expand vars (text segments) =
        "$$\x7bHOST\x7d/$\x7bHOST\x7d$$\x7b\x7d$\x7b$\x7bHOST\x7d$$" := by
  intro vars segments
  have hreadable : IsReadable segments := by decide +kernel
  refine ⟨hreadable, by decide, ?_⟩
  rw [(expand_text vars hreadable).1]
  decide +kernel

end Template

end RoleDaemon

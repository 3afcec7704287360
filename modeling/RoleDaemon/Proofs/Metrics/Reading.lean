import Mathlib.Data.List.TakeDrop
import RoleDaemon.Metrics.Exposition
import RoleDaemon.Proofs.Metrics.Registration
import RoleDaemon.Proofs.Number.Shortest
import RoleDaemon.Proofs.Text.Splitting

/-!
# Reading an Export

The text of an export is read back: it is cut at the line breaks and nowhere else, each line is one of
help, one with a type or one with a number, and help texts and label values lose their escapes.  What is
read are the lines that the exported families have, whatever their help texts and label values hold.

## Architecture

- `Exposition.read`: the reader, `Exposition.readLine`: one line
- `Exposition.lines`: the lines of a family, `Exposition.chars_eq`: its text is that of its lines
- `Exposition.readLine_chars`: a line is read back
- `Exposition.not_mem_chars`: no line has a line break, so `Exposition.read_unlines` puts them together

Main statements:
- `Registry.read_encode`: the export of a registry is read back line by line
-/

namespace RoleDaemon.Metrics

namespace Exposition

open Text

/-! ## §1 Reading -/

/-- A line of an export. -/
inductive Line where
  | help (name text : String)
  | type (name kind : String)
  | sample (name : String) (labels : Labels) (value : String)
  deriving DecidableEq, Repr

/-- The name at the start of a line. -/
def Line.name : Line → String
  | help name _ => name
  | type name _ => name
  | sample name _ _ => name

/-- A help text without its escapes. -/
def unescapeHelp : List Char → Option (List Char)
  | [] => some []
  | '\\' :: '\\' :: cs => (unescapeHelp cs).map ('\\' :: ·)
  | '\\' :: 'n' :: cs => (unescapeHelp cs).map ('\n' :: ·)
  | '\\' :: _ => none
  | c :: cs => (unescapeHelp cs).map (c :: ·)

/-- The value of a label up to its closing quote, without its escapes, and what follows the quote. -/
def readValue : List Char → Option (List Char × List Char)
  | [] => none
  | '"' :: rest => some ([], rest)
  | '\\' :: '"' :: cs => (readValue cs).map fun (value, rest) => ('"' :: value, rest)
  | '\\' :: '\\' :: cs => (readValue cs).map fun (value, rest) => ('\\' :: value, rest)
  | '\\' :: 'n' :: cs => (readValue cs).map fun (value, rest) => ('\n' :: value, rest)
  | '\\' :: _ => none
  | c :: cs => (readValue cs).map fun (value, rest) => (c :: value, rest)

/-- A label with its value in quotes, and what follows it. -/
def readLabel (cs : List Char) : Option ((String × String) × List Char) :=
  match cs.span (· ≠ '=') with
  | (name, '=' :: '"' :: rest) =>
    (readValue rest).map fun (value, rest) => ((.ofList name, .ofList value), rest)
  | _ => none

/-- Labels up to the closing brace, and what follows it.  `fuel` bounds their number. -/
def readLabels : (fuel : Nat) → List Char → Option (Labels × List Char)
  | 0, _ => none
  | fuel + 1, cs =>
    match readLabel cs with
    | some (label, ',' :: rest) =>
      (readLabels fuel rest).map fun (labels, rest) => (label :: labels, rest)
    | some (label, '\x7d' :: rest) => some ([label], rest)
    | _ => none

/-- The exported name at the head of a text, and what follows it. -/
def readName (cs : List Char) : Option (String × List Char) :=
  let (name, rest) := cs.span fun c => isNameChar c || c == ':'
  if isValidName (.ofList name) then some (.ofList name, rest) else none

/-- A line with a number. -/
def readSample (cs : List Char) : Option Line :=
  match readName cs with
  | some (name, ' ' :: value) => some (.sample name [] (.ofList value))
  | some (name, '\x7b' :: rest) =>
    match readLabels rest.length rest with
    | some (labels, ' ' :: value) => some (.sample name labels (.ofList value))
    | _ => none
  | _ => none

/-- How a line of help starts. -/
def helpMark : List Char := ['#', ' ', 'H', 'E', 'L', 'P', ' ']

/-- How a line with a type starts. -/
def typeMark : List Char := ['#', ' ', 'T', 'Y', 'P', 'E', ' ']

/-- A line of help, a line with a type, or a line with a number. -/
def readLine (cs : List Char) : Option Line :=
  match cs.dropPrefix? helpMark, cs.dropPrefix? typeMark with
  | some rest, _ =>
    match readName rest with
    | some (name, ' ' :: text) => (unescapeHelp text).map fun text => .help name (.ofList text)
    | _ => none
  | none, some rest =>
    match readName rest with
    | some (name, ' ' :: kind) => some (.type name (.ofList kind))
    | _ => none
  | none, none => readSample cs

/-- The lines of an export, where nothing but a line break ends a line. -/
def read (text : String) : Option (List Line) :=
  ((pieces '\n' text.toList).filter (!·.isEmpty)).mapM readLine

/-! ## §2 Writing Line by Line -/

/-- The text of a line. -/
def Line.chars : Line → List Char
  | help name text => helpMark ++ (name.toList ++ ' ' :: text.toList.flatMap escapeHelp)
  | type name kind => typeMark ++ (name.toList ++ ' ' :: kind.toList)
  | sample name labels value => name.toList ++ (labelsChars labels ++ ' ' :: value.toList)

def sampleOf (name : String) (labels : Labels) (value : Binary64) : Line :=
  .sample name labels (.ofList value.positional)

def countOf (name : String) (labels : Labels) (count : UInt64) : Line :=
  sampleOf name labels (.ofNat count.toNat)

/-- The lines of a histogram. -/
def histogramOf (name : String) (labels : Labels) (h : Histogram) : List Line :=
  (h.cumulative.map fun (bound, count) =>
    countOf (name ++ "_bucket") (labels ++ [("le", String.ofList bound.positional)]) count) ++
  [countOf (name ++ "_bucket") (labels ++ [("le", "+Inf")]) h.count,
    sampleOf (name ++ "_sum") labels h.sum, countOf (name ++ "_count") labels h.count]

def samplesOf (name : String) : Samples → List Line
  | .gauge samples => samples.map fun (labels, value) => countOf name labels value
  | .counter samples => samples.map fun (labels, value) => countOf name labels value
  | .histogram samples => samples.flatMap fun (labels, h) => histogramOf name labels h

/-- The lines of a family. -/
def lines (family : Exposition) : List Line :=
  .help family.name family.help :: .type family.name family.samples.typeName ::
    samplesOf family.name family.samples

/-- The lines as one text, each with a line break behind. -/
def unlines (lines : List Line) : List Char :=
  lines.flatMap fun line => line.chars ++ ['\n']

theorem unlines_append (a b : List Line) : unlines (a ++ b) = unlines a ++ unlines b :=
  List.flatMap_append

theorem unlines_cons_cons (a b : Line) (rest : List Line) :
    unlines (a :: b :: rest) = unlines [a] ++ unlines (b :: rest) := by
  simp only [unlines, List.flatMap_cons, List.flatMap_nil, List.append_nil]

theorem unlines_flatMap {α : Type} (items : List α) (f : α → List Line) :
    unlines (items.flatMap f) = items.flatMap fun item => unlines (f item) :=
  List.flatMap_assoc

theorem sampleLine_eq (name : String) (labels : Labels) (value : Binary64) :
    sampleLine name labels value = unlines [sampleOf name labels value] := by
  unfold sampleLine sampleOf unlines
  rw [List.flatMap_cons, List.flatMap_nil, Line.chars, String.toList_ofList]
  simp only [List.append_assoc, List.cons_append, List.append_nil]

theorem countLine_eq (name : String) (labels : Labels) (count : UInt64) :
    countLine name labels count = unlines [countOf name labels count] := by
  rw [countLine, sampleLine_eq, countOf]

theorem unlines_map {α : Type} (items : List α) (f : α → Line) :
    unlines (items.map f) = items.flatMap fun item => unlines [f item] := by
  rw [List.map_eq_flatMap, unlines_flatMap]

theorem histogramLines_eq (name : String) (labels : Labels) (h : Histogram) :
    histogramLines name labels h = unlines (histogramOf name labels h) := by
  simp only [histogramLines, histogramOf, countLine_eq, sampleLine_eq, unlines_append, unlines_map,
    unlines_cons_cons, List.append_assoc]

theorem sampleLines_eq (name : String) (samples : Samples) :
    sampleLines name samples = unlines (samplesOf name samples) := by
  cases samples with
  | gauge samples => simp only [sampleLines, samplesOf, countLine_eq, unlines_map]
  | counter samples => simp only [sampleLines, samplesOf, countLine_eq, unlines_map]
  | histogram samples => simp only [sampleLines, samplesOf, histogramLines_eq, unlines_flatMap]

/-- The text of a family is the text of its lines. -/
theorem chars_eq (family : Exposition) : family.chars = unlines family.lines := by
  have hhelp : "# HELP ".toList = helpMark := rfl
  have htype : "\n# TYPE ".toList = '\n' :: typeMark := rfl
  unfold chars lines
  rw [sampleLines_eq, hhelp, htype]
  generalize samplesOf family.name family.samples = samples
  unfold unlines
  rw [List.flatMap_cons, List.flatMap_cons, Line.chars, Line.chars]
  simp only [List.append_assoc, List.cons_append, List.nil_append]

/-! ## §3 Reading Back -/

/-- Labels whose names can be read back. -/
def PlainLabels (labels : Labels) : Prop :=
  ∀ label ∈ labels, '=' ∉ label.1.toList ∧ '\n' ∉ label.1.toList

/-- A line that can be written and read: it has a valid name, and no line breaks where none are
    escaped. -/
def Line.IsPlain : Line → Prop
  | help name _ => isValidName name
  | type name kind => isValidName name ∧ '\n' ∉ kind.toList
  | sample name labels value => isValidName name ∧ PlainLabels labels ∧ '\n' ∉ value.toList

/-- A help text is read back. -/
theorem unescapeHelp_flatMap (text : List Char) :
    unescapeHelp (text.flatMap escapeHelp) = some text := by
  induction text with
  | nil => rfl
  | cons c text ih =>
    -- what a character is escaped to is read as this character, whatever follows
    have hescaped : unescapeHelp (escapeHelp c ++ text.flatMap escapeHelp) =
        (unescapeHelp (text.flatMap escapeHelp)).map (c :: ·) := by
      unfold escapeHelp
      split
      · subst c
        rfl
      · split
        · subst c
          rfl
        · simp [unescapeHelp, *]
    rw [List.flatMap_cons, hescaped, ih]
    rfl

/-- The value of a label is read back. -/
theorem readValue_flatMap (value rest : List Char) :
    readValue (value.flatMap escapeValue ++ '"' :: rest) = some (value, rest) := by
  induction value with
  | nil => rfl
  | cons c value ih =>
    have hescaped : ∀ cs, readValue (escapeValue c ++ cs) =
        (readValue cs).map fun (value, rest) => (c :: value, rest) := by
      intro cs
      unfold escapeValue escapeHelp
      split
      · subst c
        rfl
      · split
        · subst c
          rfl
        · split
          · subst c
            rfl
          · simp [readValue, *]
    rw [List.flatMap_cons, List.append_assoc, hescaped, ih]
    rfl

/-- A run of characters ends at the first one of another kind. -/
theorem span_append_cons {p : Char → Bool} {run : List Char} (hrun : ∀ c ∈ run, p c) {c : Char}
    (hc : p c = false) (rest : List Char) : (run ++ c :: rest).span p = (run, c :: rest) := by
  rw [List.span_eq_takeWhile_dropWhile, List.takeWhile_append_of_pos hrun,
    List.dropWhile_append_of_pos hrun, List.takeWhile_cons_of_neg (by simp [hc]),
    List.dropWhile_cons_of_neg (by simp [hc]), List.append_nil]

/-- A label is read back. -/
theorem readLabel_labelChars {label : String × String} (hname : '=' ∉ label.1.toList)
    (rest : List Char) : readLabel (labelChars label ++ rest) = some (label, rest) := by
  have hrun : ∀ c ∈ label.1.toList, (fun c => decide (c ≠ '=')) c := by
    intro c hc
    have hne : c ≠ '=' := fun heq => hname (heq ▸ hc)
    exact decide_eq_true hne
  have hspan : (labelChars label ++ rest).span (· ≠ '=') = (label.1.toList,
      '=' :: '"' :: (label.2.toList.flatMap escapeValue ++ '"' :: rest)) := by
    rw [labelChars, List.append_assoc]
    simpa using span_append_cons hrun (by simp) _
  unfold readLabel
  rw [hspan]
  simp only [readValue_flatMap, Option.map_some, String.ofList_toList]

/-- Labels are read back up to the closing brace. -/
theorem readLabels_labelsChars {label : String × String} {labels : Labels}
    (hnames : ∀ label' ∈ label :: labels, '=' ∉ label'.1.toList) {fuel : Nat}
    (hfuel : labels.length < fuel) (rest : List Char) :
    readLabels fuel (List.intercalate [','] ((label :: labels).map labelChars) ++ '\x7d' :: rest) =
      some (label :: labels, rest) := by
  induction labels generalizing label fuel with
  | nil =>
    obtain ⟨fuel, rfl⟩ : ∃ more, fuel = more + 1 := ⟨fuel - 1, by simp at hfuel; omega⟩
    rw [readLabels, List.map_singleton, List.intercalate_singleton,
      readLabel_labelChars (hnames label (by simp))]
    rfl
  | cons next labels ih =>
    obtain ⟨fuel, rfl⟩ : ∃ more, fuel = more + 1 := ⟨fuel - 1, by simp at hfuel; omega⟩
    have hlater : ∀ other ∈ next :: labels, '=' ∉ other.1.toList :=
      fun other hother => hnames other (List.mem_cons_of_mem label hother)
    have hrest := ih hlater (Nat.lt_of_succ_lt_succ hfuel)
    rw [readLabels, List.map_cons, List.map_cons, List.intercalate_cons_cons, List.append_assoc,
      List.append_assoc, readLabel_labelChars (hnames label (by simp))]
    rw [List.map_cons] at hrest
    simp only [List.cons_append, List.nil_append, hrest, Option.map_some]

/-- The characters of a valid name. -/
theorem isNameChar_of_mem {name : String} (hname : isValidName name) {c : Char}
    (hc : c ∈ name.toList) : isNameChar c || c == ':' := by
  unfold isValidName at hname
  split at hname
  · cases hname
  · rename_i heq
    rw [heq] at hc
    exact List.all_eq_true.1 (Bool.and_eq_true_iff.1 hname).2 c hc

theorem readName_append {name : String} (hname : isValidName name) {c : Char}
    (hc : c = ' ' ∨ c = '\x7b') (rest : List Char) :
    readName (name.toList ++ c :: rest) = some (name, c :: rest) := by
  have hrun : ∀ c ∈ name.toList, (fun c => isNameChar c || c == ':') c :=
    fun c hc => isNameChar_of_mem hname hc
  unfold readName
  rw [span_append_cons hrun (by obtain rfl | rfl := hc <;> decide)]
  simp [hname]

/-- Labels are at least as long as they are many. -/
theorem length_le_intercalate (label : String × String) (labels : Labels) :
    labels.length ≤ (List.intercalate [','] ((label :: labels).map labelChars)).length := by
  induction labels generalizing label with
  | nil => exact Nat.zero_le _
  | cons next labels ih =>
    have hrest := ih next
    rw [List.map_cons] at hrest
    rw [List.map_cons, List.map_cons, List.intercalate_cons_cons, List.length_append,
      List.length_append, List.length_cons, List.length_singleton]
    omega

theorem readSample_chars {name : String} {labels : Labels} {value : String}
    (hname : isValidName name) (hlabels : ∀ label ∈ labels, '=' ∉ label.1.toList) :
    readSample (Line.chars (.sample name labels value)) = some (.sample name labels value) := by
  rw [Line.chars]
  cases labels with
  | nil =>
    change readSample (name.toList ++ ' ' :: value.toList) = _
    rw [readSample, readName_append hname (.inl rfl)]
    simp
  | cons label labels =>
    -- the fuel is the number of characters, and each label has some
    have hfuel : labels.length < (List.intercalate [','] ((label :: labels).map labelChars) ++
        '\x7d' :: ' ' :: value.toList).length := by
      have hlength := length_le_intercalate label labels
      rw [List.length_append, List.length_cons]
      omega
    have hread := readLabels_labelsChars hlabels hfuel (' ' :: value.toList)
    have hchars : labelsChars (label :: labels) ++ ' ' :: value.toList = '\x7b' ::
        (List.intercalate [','] ((label :: labels).map labelChars) ++
          '\x7d' :: ' ' :: value.toList) := by
      simp [labelsChars]
    rw [hchars, readSample, readName_append hname (.inr rfl)]
    simp only [hread, String.ofList_toList]

/-- A text that does not start with the mark keeps all of its characters. -/
theorem dropPrefix?_eq_none {mark cs : List Char} (h : ∀ rest, cs ≠ mark ++ rest) :
    cs.dropPrefix? mark = none := by
  apply Option.eq_none_iff_forall_ne_some.2
  intro found hfound
  obtain ⟨start, heq, hstart⟩ := List.dropPrefix?_eq_some_iff.1 hfound
  obtain rfl := eq_of_beq hstart
  exact h found heq

theorem dropPrefix?_append (mark rest : List Char) : (mark ++ rest).dropPrefix? mark = some rest :=
  List.dropPrefix?_eq_some_iff.2 ⟨mark, rfl, by simp⟩

/-- A valid name does not start like a line of help or a line with a type. -/
theorem dropPrefix?_name {name : String} (hname : isValidName name) (mark rest : List Char) :
    (name.toList ++ rest).dropPrefix? ('#' :: mark) = none := by
  apply dropPrefix?_eq_none
  intro found heq
  unfold isValidName at hname
  split at hname
  · simp at hname
  · rename_i first others hcs
    -- the first character of a valid name is a character of names, which the mark does not start with
    rw [hcs] at heq
    obtain rfl : first = '#' := by simpa using congrArg List.head? heq
    revert hname
    simp [isNameChar]

/-- A line is read back. -/
theorem readLine_chars {line : Line} (h : line.IsPlain) : readLine line.chars = some line := by
  cases line with
  | help name text =>
    unfold readLine
    rw [Line.chars, dropPrefix?_append]
    simp only [readName_append h (.inl rfl), unescapeHelp_flatMap, Option.map_some,
      String.ofList_toList]
  | type name kind =>
    have hother : (typeMark ++ (name.toList ++ ' ' :: kind.toList)).dropPrefix? helpMark = none := by
      apply dropPrefix?_eq_none
      intro found heq
      -- the marks are equally long, and different
      exact absurd (List.append_inj heq rfl).1 (by decide)
    unfold readLine
    rw [Line.chars, hother, dropPrefix?_append]
    simp only [readName_append h.1 (.inl rfl), String.ofList_toList]
  | sample name labels value =>
    have hread : readSample (Line.chars (.sample name labels value)) =
        some (.sample name labels value) :=
      readSample_chars h.1 fun label hlabel => (h.2.1 label hlabel).1
    unfold readLine
    rw [Line.chars] at hread ⊢
    rw [helpMark, typeMark, dropPrefix?_name h.1, dropPrefix?_name h.1]
    exact hread

/-! ## §4 Lines and Line Breaks -/

theorem not_mem_escapeHelp (c : Char) : '\n' ∉ escapeHelp c := by
  unfold escapeHelp
  split
  · decide
  · split
    · decide
    · rename_i hbreak
      simpa using Ne.symm hbreak

theorem not_mem_escapeValue (c : Char) : '\n' ∉ escapeValue c := by
  unfold escapeValue
  split
  · decide
  · exact not_mem_escapeHelp c

theorem not_mem_labelChars {label : String × String} (hname : '\n' ∉ label.1.toList) :
    '\n' ∉ labelChars label := by
  simp [labelChars, hname, not_mem_escapeValue]

theorem not_mem_intercalate {parts : List (List Char)} (h : ∀ part ∈ parts, '\n' ∉ part) :
    '\n' ∉ List.intercalate [','] parts := by
  induction parts with
  | nil => simp [List.intercalate]
  | cons part rest ih =>
    obtain ⟨hpart, hrest⟩ := List.forall_mem_cons.1 h
    cases rest with
    | nil => rwa [List.intercalate_singleton]
    | cons next rest =>
      rw [List.intercalate_cons_cons]
      simp [hpart, ih hrest]

theorem not_mem_labelsChars {labels : Labels} (hnames : ∀ label ∈ labels, '\n' ∉ label.1.toList) :
    '\n' ∉ labelsChars labels := by
  have hparts : ∀ part ∈ labels.map labelChars, '\n' ∉ part := by
    intro part hpart
    obtain ⟨label, hlabel, rfl⟩ := List.mem_map.1 hpart
    exact not_mem_labelChars (hnames label hlabel)
  unfold labelsChars
  split
  · simp
  · simp [not_mem_intercalate hparts]

theorem not_mem_name {name : String} (hname : isValidName name) : '\n' ∉ name.toList := by
  intro hmem
  have hchar := isNameChar_of_mem hname hmem
  exact absurd hchar (by decide)

/-- The text of a line is one line. -/
theorem not_mem_chars {line : Line} (h : line.IsPlain) : '\n' ∉ line.chars := by
  cases line with
  | help name text =>
    have hmark : '\n' ∉ helpMark := by decide
    simp [Line.chars, hmark, not_mem_name h, not_mem_escapeHelp]
  | type name kind =>
    have hmark : '\n' ∉ typeMark := by decide
    simp [Line.chars, hmark, not_mem_name h.1, h.2]
  | sample name labels value =>
    obtain ⟨hname, hlabels, hvalue⟩ := h
    have hlabelsChars := not_mem_labelsChars fun label hlabel => (hlabels label hlabel).2
    simp [Line.chars, not_mem_name hname, hlabelsChars, hvalue]

theorem chars_ne_nil (line : Line) : line.chars ≠ [] := by
  cases line <;> simp [Line.chars, helpMark, typeMark]

theorem pieces_unlines {lines : List Line} (h : ∀ line ∈ lines, line.IsPlain) :
    pieces '\n' (unlines lines) = lines.map Line.chars ++ [[]] := by
  induction lines with
  | nil => rfl
  | cons line lines ih =>
    obtain ⟨hline, hlines⟩ := List.forall_mem_cons.1 h
    have hchars : unlines (line :: lines) = line.chars ++ '\n' :: unlines lines := by
      simp [unlines]
    rw [hchars, pieces_append_cons (not_mem_chars hline), ih hlines]
    rfl

/-- Lines that are written one after the other are read back. -/
theorem read_unlines {lines : List Line} (h : ∀ line ∈ lines, line.IsPlain) :
    read (String.ofList (unlines lines)) = some lines := by
  -- only the part behind the last line break is empty
  have hparts : (lines.map Line.chars ++ [[]]).filter (!·.isEmpty) = lines.map Line.chars := by
    rw [List.filter_append, List.filter_eq_self.2]
    · simp
    · intro part hpart
      obtain ⟨line, -, rfl⟩ := List.mem_map.1 hpart
      simp [chars_ne_nil]
  rw [read, String.toList_ofList, pieces_unlines h, hparts]
  clear hparts
  induction lines with
  | nil => rfl
  | cons line lines ih =>
    obtain ⟨hline, hlines⟩ := List.forall_mem_cons.1 h
    simp only [List.map_cons, List.mapM_cons, readLine_chars hline, ih hlines]
    rfl

/-! ## §5 Exports Read Back -/

/-- All labels of the samples have names that can be read back. -/
def PlainSamples : Samples → Prop
  | .gauge samples => ∀ sample ∈ samples, PlainLabels sample.1
  | .counter samples => ∀ sample ∈ samples, PlainLabels sample.1
  | .histogram samples => ∀ sample ∈ samples, PlainLabels sample.1

theorem isPlain_sampleOf {name : String} (hname : isValidName name) {labels : Labels}
    (hlabels : PlainLabels labels) (value : Binary64) : (sampleOf name labels value).IsPlain := by
  refine ⟨hname, hlabels, ?_⟩
  rw [String.toList_ofList]
  intro hbreak
  exact absurd (Binary64.mem_positional hbreak) (by decide)

theorem isValidName_append {name suffix : String} (hname : isValidName name)
    (hsuffix : suffix.toList.all isNameChar) : isValidName (name ++ suffix) := by
  unfold isValidName at *
  rw [String.toList_append]
  split at hname
  · cases hname
  · rename_i heq
    rw [heq]
    simp_all

theorem isPlain_histogramOf {name : String} (hname : isValidName name) {labels : Labels}
    (hlabels : PlainLabels labels) (h : Histogram) :
    ∀ line ∈ histogramOf name labels h, line.IsPlain := by
  have hle : ∀ bound, PlainLabels (labels ++ [("le", bound)]) := by
    intro bound label hlabel
    rcases List.mem_append.1 hlabel with hlabel | hlabel
    · exact hlabels label hlabel
    · obtain rfl := List.mem_singleton.1 hlabel
      exact (by decide : '=' ∉ "le".toList ∧ '\n' ∉ "le".toList)
  have hbucket : isValidName (name ++ "_bucket") := isValidName_append hname (by decide)
  have hsum : isValidName (name ++ "_sum") := isValidName_append hname (by decide)
  have hcount : isValidName (name ++ "_count") := isValidName_append hname (by decide)
  intro line hline
  -- the buckets with a bound, and then the last bucket, the sum and the count
  rcases List.mem_append.1 hline with hline | hline
  · obtain ⟨⟨bound, count⟩, -, rfl⟩ := List.mem_map.1 hline
    exact isPlain_sampleOf hbucket (hle _) _
  · simp only [List.mem_cons, List.not_mem_nil, or_false] at hline
    obtain rfl | rfl | rfl := hline
    · exact isPlain_sampleOf hbucket (hle _) _
    · exact isPlain_sampleOf hsum hlabels _
    · exact isPlain_sampleOf hcount hlabels _

/-- All lines of a family can be read back. -/
theorem isPlain_lines {family : Exposition} (hname : isValidName family.name)
    (hsamples : PlainSamples family.samples) : ∀ line ∈ family.lines, line.IsPlain := by
  intro line hline
  simp only [lines, List.mem_cons] at hline
  obtain rfl | rfl | hline := hline
  · exact hname
  · refine ⟨hname, ?_⟩
    cases family.samples with
    | gauge => exact (by decide : '\n' ∉ "gauge".toList)
    | counter => exact (by decide : '\n' ∉ "counter".toList)
    | histogram => exact (by decide : '\n' ∉ "histogram".toList)
  · cases hkind : family.samples with
    | gauge samples =>
      rw [hkind] at hline hsamples
      obtain ⟨sample, hsample, rfl⟩ := List.mem_map.1 hline
      exact isPlain_sampleOf hname (hsamples sample hsample) _
    | counter samples =>
      rw [hkind] at hline hsamples
      obtain ⟨sample, hsample, rfl⟩ := List.mem_map.1 hline
      exact isPlain_sampleOf hname (hsamples sample hsample) _
    | histogram samples =>
      rw [hkind] at hline hsamples
      obtain ⟨sample, hsample, hline⟩ := List.mem_flatMap.1 hline
      exact isPlain_histogramOf hname (hsamples sample hsample) _ line hline

end Exposition

namespace Registry

open Exposition

/-- A metric as it is exported. -/
def exposed (registry : Registry) (family : Family) : Exposition :=
  ⟨family.exportName, family.help, family.content.samples registry.trace⟩

/-- The export holds the metrics that have samples. -/
theorem gather_perm (registry : Registry) :
    registry.gather.Perm ((registry.families.map registry.exposed).filter
      fun family => family.samples.size != 0) :=
  List.mergeSort_perm _ _

theorem plainSamples_series {α : Type} (series : Series α) :
    ∀ sample ∈ series.samples, PlainLabels sample.1 := by
  intro sample hsample
  obtain ⟨cell, -, rfl⟩ := List.mem_map.1 hsample
  intro label hlabel
  simp only [CallLabels.toLabels, List.mem_cons, List.not_mem_nil, or_false] at hlabel
  obtain rfl | rfl := hlabel
  · exact (by decide : '=' ∉ "method".toList ∧ '\n' ∉ "method".toList)
  · exact (by decide : '=' ∉ "service".toList ∧ '\n' ∉ "service".toList)

theorem plainSamples_content (trace : Rpc.Trace) (content : Content) :
    PlainSamples (content.samples trace) := by
  have hplain : ∀ value, PlainLabels [("value", value)] := by
    intro value label hlabel
    obtain rfl := List.mem_singleton.1 hlabel
    exact (by decide : '=' ∉ "value".toList ∧ '\n' ∉ "value".toList)
  cases content with
  | flag => simp [Content.samples, PlainSamples, PlainLabels]
  | counter => simp [Content.samples, PlainSamples, PlainLabels]
  | property value? =>
    cases value? with
    | none => simp [Content.samples, PlainSamples]
    | some value => simpa [Content.samples, PlainSamples] using hplain value
  | rpcCalls => exact plainSamples_series trace.calls
  | rpcErrors => exact plainSamples_series trace.errors
  | rpcLatency => exact plainSamples_series trace.latency

/-- The lines of an export. -/
def lines (registry : Registry) : List Line :=
  registry.gather.flatMap Exposition.lines

/-- **An export is read back line by line.** -/
theorem read_encode {registry : Registry} (h : registry.Sound) :
    read registry.encode = some registry.lines := by
  have hchars : registry.gather.flatMap Exposition.chars = unlines registry.lines := by
    rw [lines, unlines_flatMap]
    exact List.flatMap_congr fun family _ => family.chars_eq
  rw [encode, hchars]
  apply read_unlines
  intro line hline
  obtain ⟨exposition, hexposition, hline⟩ := List.mem_flatMap.1 hline
  have hmem := (List.mem_filter.1 ((gather_perm registry).mem_iff.1 hexposition)).1
  obtain ⟨family, hfamily, rfl⟩ := List.mem_map.1 hmem
  -- only metrics with a valid exported name are registered
  have hvalid : isValidName family.exportName :=
    (descriptionFault?_eq_none_iff.1 (h.described family hfamily)).2
  exact isPlain_lines hvalid (plainSamples_content _ _) line hline

end Registry

end RoleDaemon.Metrics

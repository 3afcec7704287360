import RoleDaemon.Proofs.Metrics.Book
import RoleDaemon.Proofs.Metrics.Reading

/-!
# The Views of a Registry

A registry shows its metrics in two ways: as a snapshot, which lists flags, counters and properties by
their names, and as an export, whose lines stand under exported names.  The snapshot drops what the
lines need and the lines change what the snapshot keeps, and yet both tell the same.

## Architecture

- `Exposition.linesNamed`: the lines under a name, `Exposition.block`: the lines of one number
- `Registry.linesNamed_exportName`: under the exported name of a metric stand its lines, and no others
- `Registry.mem_byName_iff`: a snapshot lists what is found in the registry
- `Registry.ViewsAgree`: the two views tell the same

Main statements:
- `Book.Balanced.viewsAgree`: the views of a balanced book agree
- `Registry.linesNamed_flag`: the lines of a flag, also while calls are traced
-/

namespace RoleDaemon.Metrics

open Exposition

/-! ## §1 The Lines of One Family -/

@[simp] theorem Series.samples_empty {α : Type} : (Series.empty : Series α).samples = [] := by
  simp [Series.samples, Series.empty]

namespace Exposition

/-- The names that the lines of a family have. -/
def names (family : Exposition) : List String :=
  family.name :: match family.samples with
    | .histogram _ => [family.name ++ "_bucket", family.name ++ "_sum", family.name ++ "_count"]
    | _ => []

theorem name_mem_names {family : Exposition} {line : Line} (h : line ∈ family.lines) :
    line.name ∈ family.names := by
  obtain ⟨name, help, samples⟩ := family
  simp only [lines, List.mem_cons] at h
  obtain rfl | rfl | h := h
  · exact List.mem_cons_self
  · exact List.mem_cons_self
  · cases samples with
    | gauge samples =>
      obtain ⟨sample, -, rfl⟩ := List.mem_map.1 h
      exact List.mem_cons_self
    | counter samples =>
      obtain ⟨sample, -, rfl⟩ := List.mem_map.1 h
      exact List.mem_cons_self
    | histogram samples =>
      -- buckets, sum and count have names of their own
      obtain ⟨⟨labels, h'⟩, -, hline⟩ := List.mem_flatMap.1 h
      apply List.mem_cons_of_mem
      rcases List.mem_append.1 hline with hline | hline
      · obtain ⟨⟨bound, count⟩, -, rfl⟩ := List.mem_map.1 hline
        exact List.mem_cons_self
      · simp only [List.mem_cons, List.not_mem_nil, or_false] at hline
        obtain rfl | rfl | rfl := hline <;> simp [countOf, sampleOf, Line.name]

/-- The lines with a name. -/
def linesNamed (name : String) (lines : List Line) : List Line :=
  lines.filter fun line => line.name = name

/-- A family with one number: a line of help, a line with the type, and one with the number. -/
def block (name help kind : String) (labels : Labels) (value : String) : List Line :=
  [.help name help, .type name kind, .sample name labels value]

theorem countOf_eq (name : String) (labels : Labels) {count : UInt64}
    (hsmall : count.toNat < 2 ^ 53) :
    countOf name labels count = .sample name labels (Text.decimalText count.toNat) := by
  rw [countOf, sampleOf, Binary64.positional_ofNat hsmall, Text.decimalText]

@[simp] theorem countOf_zero (name : String) (labels : Labels) :
    countOf name labels 0 = .sample name labels "0" :=
  countOf_eq name labels (by decide)

@[simp] theorem countOf_one (name : String) (labels : Labels) :
    countOf name labels 1 = .sample name labels "1" :=
  countOf_eq name labels (by decide)

end Exposition

/-! ## §2 The Lines Under an Exported Name -/

namespace Registry

variable {registry : Registry}

/-- Under the exported name of a metric stands the metric, when it has samples. -/
theorem gather_filter_name (h : registry.Sound) {family : Family}
    (hfamily : family ∈ registry.families) :
    registry.gather.filter (fun other => other.name = family.exportName) =
      if (registry.exposed family).samples.size = 0 then [] else [registry.exposed family] := by
  -- gathering puts the metrics in another order, which is no matter for a single one
  have hperm := (gather_perm registry).filter fun other => other.name = family.exportName
  have hnamed : (registry.families.map registry.exposed).filter
      (fun other => other.name = family.exportName) = [registry.exposed family] := by
    rw [List.filter_map]
    exact congrArg (List.map registry.exposed) (h.filter_exportName hfamily)
  rw [List.filter_comm, hnamed, List.filter_singleton] at hperm
  by_cases hsize : (registry.exposed family).samples.size = 0
  · rw [if_pos hsize]
    simpa [hsize] using hperm
  · rw [if_neg hsize]
    -- the metric has samples, so it is gathered
    have hkept : ((registry.exposed family).samples.size != 0) = true := by simpa using hsize
    rw [hkept] at hperm
    exact List.perm_singleton.1 hperm

/-- The names of the numbers of the latency. -/
def latencyNames : List String :=
  ["recordservice_rpc_duration_seconds_bucket", "recordservice_rpc_duration_seconds_sum",
    "recordservice_rpc_duration_seconds_count"]

/-- No number of the latency has the name. -/
def IsFree (registry : Registry) (name : String) : Prop :=
  registry.trace.latency.cells = [] ∨ name ∉ latencyNames

/-- The latency is registered under its own name only. -/
theorem eq_rpcLatency (h : registry.Sound) {family : Family} (hfamily : family ∈ registry.families)
    (hcontent : family.content = .rpcLatency) : family = .rpcLatency := by
  -- what is no flag, counter or property is one of the three series of the trace
  have hwell := h.wellNamed family hfamily
  simp only [Family.isWellNamed, hcontent, Content.kind?, traceFamilies, decide_eq_true_eq,
    List.mem_cons, List.not_mem_nil, or_false] at hwell
  obtain rfl | rfl | rfl := hwell
  · cases hcontent
  · cases hcontent
  · rfl

/-- All lines of a flag, a counter or a property have its name. -/
theorem names_exposed {family : Family} (hkind : family.content.kind?.isSome) :
    (registry.exposed family).names = [family.exportName] := by
  cases hcontent : family.content with
  | property value? =>
    cases value? <;> simp [exposed, Exposition.names, hcontent, Content.samples]
  | flag => simp [exposed, Exposition.names, hcontent, Content.samples]
  | counter => simp [exposed, Exposition.names, hcontent, Content.samples]
  | _ =>
    rw [hcontent] at hkind
    cases hkind

/-- A name that is free stands for the families that are exported under it. -/
theorem name_eq_of_mem_names (h : registry.Sound) {name : String} (hfree : registry.IsFree name)
    {other : Exposition} (hother : other ∈ registry.gather) (hname : name ∈ other.names) :
    name = other.name := by
  obtain ⟨hmem, hsize⟩ := List.mem_filter.1 ((gather_perm registry).mem_iff.1 hother)
  obtain ⟨family, hfamily, rfl⟩ := List.mem_map.1 hmem
  -- only the latency has lines under other names than its own
  cases hcontent : family.content with
  | rpcLatency =>
    obtain rfl := eq_rpcLatency h hfamily hcontent
    obtain hquiet | hfree := hfree
    · -- without calls the latency has no samples
      have hnone : (registry.exposed .rpcLatency).samples.size = 0 := by
        simp [exposed, Family.rpcLatency, Content.samples, Series.samples, hquiet, Samples.size]
      simp [hnone] at hsize
    · rcases List.mem_cons.1 hname with hname | hname
      · exact hname
      · exact absurd hname hfree
  | property value? =>
    cases value? <;> simpa [exposed, Exposition.names, hcontent, Content.samples] using hname
  | _ => simpa [exposed, Exposition.names, hcontent, Content.samples] using hname

/-- Items that contribute nothing can be left out. -/
theorem flatMap_eq_flatMap_filter {α β : Type} {items : List α} {f : α → List β} {p : α → Bool}
    (h : ∀ item ∈ items, ¬ p item → f item = []) :
    items.flatMap f = (items.filter p).flatMap f := by
  induction items with
  | nil => rfl
  | cons item items ih =>
    obtain ⟨hitem, hitems⟩ := List.forall_mem_cons.1 h
    rw [List.flatMap_cons, ih hitems, List.filter_cons]
    split
    · rfl
    · rename_i hp
      rw [hitem hp, List.nil_append]

/-- **The lines under the exported name of a metric are those of the metric.** -/
theorem linesNamed_exportName (h : registry.Sound) {family : Family}
    (hfamily : family ∈ registry.families) (hkind : family.content.kind?.isSome)
    (hfree : registry.IsFree family.exportName) :
    linesNamed family.exportName registry.lines =
      if (registry.exposed family).samples.size = 0 then [] else (registry.exposed family).lines := by
  -- families with other names have no line under this one, and the family itself has no other lines
  have hothers : ∀ other ∈ registry.gather, ¬ decide (other.name = family.exportName) →
      linesNamed family.exportName other.lines = [] := by
    intro other hother hname
    apply List.filter_eq_nil_iff.2
    intro line hline heq
    apply hname
    have hmem := Exposition.name_mem_names hline
    rw [of_decide_eq_true heq] at hmem
    exact decide_eq_true (name_eq_of_mem_names h hfree hother hmem).symm
  have hown : linesNamed family.exportName (registry.exposed family).lines =
      (registry.exposed family).lines := by
    apply List.filter_eq_self.2
    intro line hline
    have hmem := Exposition.name_mem_names hline
    rw [names_exposed hkind, List.mem_singleton] at hmem
    exact decide_eq_true hmem
  calc linesNamed family.exportName registry.lines
      = registry.gather.flatMap fun other => linesNamed family.exportName other.lines :=
        List.filter_flatMap
    _ = (registry.gather.filter fun other => other.name = family.exportName).flatMap fun other =>
          linesNamed family.exportName other.lines := flatMap_eq_flatMap_filter hothers
    _ = _ := by
        rw [gather_filter_name h hfamily]
        split
        · rfl
        · rw [List.flatMap_singleton, hown]

/-! ## §3 Snapshots -/

/-- What is found as a flag has a value of one. -/
theorem exists_flag {name : String} {family : Family}
    (hfind : registry.find? .flag name = some family) :
    ∃ isSet, family.content = .flag isSet := by
  have hkind := (isNamed_iff.1 (isNamed_of_find? hfind)).1
  cases hcontent : family.content with
  | flag isSet => exact ⟨isSet, rfl⟩
  | _ =>
    rw [hcontent] at hkind
    cases hkind

/-- What is found as a property has a value of one, or none yet. -/
theorem exists_property {name : String} {family : Family}
    (hfind : registry.find? .property name = some family) :
    ∃ value?, family.content = .property value? := by
  have hkind := (isNamed_iff.1 (isNamed_of_find? hfind)).1
  cases hcontent : family.content with
  | property value? => exact ⟨value?, rfl⟩
  | _ =>
    rw [hcontent] at hkind
    cases hkind

/-- The series of the trace have no samples without calls. -/
theorem size_samples_of_quiet (hquiet : registry.trace = .empty) {family : Family}
    (hkind : family.content.kind? = none) : (registry.exposed family).samples.size = 0 := by
  cases hcontent : family.content with
  | flag | counter | property =>
    rw [hcontent] at hkind
    cases hkind
  | _ => simp [exposed, hcontent, hquiet, Rpc.Trace.empty, Content.samples, Samples.size]

end Registry

namespace Family

/-- The entry of a flag in a snapshot. -/
def listedFlag? (family : Family) : Option (String × Bool) :=
  match family.content with
  | .flag isSet => some (family.name, isSet)
  | _ => none

/-- The entry of a counter in a snapshot. -/
def listedCounter? (family : Family) : Option (String × UInt64) :=
  match family.content with
  | .counter value => some (family.name, value)
  | _ => none

/-- The entry of a property in a snapshot, which lists those with a value only. -/
def listedProperty? (family : Family) : Option (String × String) :=
  match family.content with
  | .property (some value) => some (family.name, value)
  | _ => none

theorem listedFlag?_eq_some_iff (family : Family) (entry : String × Bool) :
    family.listedFlag? = some entry ↔ family.name = entry.1 ∧ family.content = .flag entry.2 := by
  cases hcontent : family.content <;> simp [listedFlag?, hcontent, Prod.ext_iff]

theorem listedCounter?_eq_some_iff (family : Family) (entry : String × UInt64) :
    family.listedCounter? = some entry ↔
      family.name = entry.1 ∧ family.content = .counter entry.2 := by
  cases hcontent : family.content <;> simp [listedCounter?, hcontent, Prod.ext_iff]

theorem listedProperty?_eq_some_iff (family : Family) (entry : String × String) :
    family.listedProperty? = some entry ↔
      family.name = entry.1 ∧ family.content = .property (some entry.2) := by
  cases hcontent : family.content with
  | property value? => cases value? <;> simp [listedProperty?, hcontent, Prod.ext_iff]
  | _ => simp [listedProperty?, hcontent]

end Family

namespace Registry

variable {registry : Registry}

theorem snapshot_eq (registry : Registry) :
    registry.snapshot =
      { flags := byName (registry.families.filterMap Family.listedFlag?)
        counters := byName (registry.families.filterMap Family.listedCounter?)
        properties := byName (registry.families.filterMap Family.listedProperty?) } := rfl

/-- A snapshot lists what is found, by name: `make` builds the contents of a kind that it lists. -/
theorem mem_byName_iff (h : registry.Sound) {α : Type} {kind : Kind} (make : α → Content)
    (hkind : ∀ value, (make value).kind? = some kind) {listed? : Family → Option (String × α)}
    (hlisted : ∀ family entry, listed? family = some entry ↔
      family.name = entry.1 ∧ family.content = make entry.2) {entry : String × α} :
    entry ∈ byName (registry.families.filterMap listed?) ↔
      ∃ family, registry.find? kind entry.1 = some family ∧ family.content = make entry.2 := by
  -- the order of a snapshot does not matter for what it lists
  rw [byName, List.mem_mergeSort, List.mem_filterMap]
  constructor
  · rintro ⟨family, hfamily, heq⟩
    obtain ⟨hname, hcontent⟩ := (hlisted family entry).1 heq
    exact ⟨family, hname ▸ h.find?_of_mem hfamily (hcontent ▸ hkind entry.2), hcontent⟩
  · rintro ⟨family, hfind, hcontent⟩
    have hname := (isNamed_iff.1 (isNamed_of_find? hfind)).2
    exact ⟨family, List.mem_of_find?_eq_some hfind, (hlisted family entry).2 ⟨hname, hcontent⟩⟩

theorem mem_flags_iff (h : registry.Sound) {entry : String × Bool} :
    entry ∈ registry.snapshot.flags ↔
      ∃ family, registry.find? .flag entry.1 = some family ∧ family.content = .flag entry.2 :=
  mem_byName_iff h .flag (fun _ => rfl) Family.listedFlag?_eq_some_iff

theorem mem_counters_iff (h : registry.Sound) {entry : String × UInt64} :
    entry ∈ registry.snapshot.counters ↔
      ∃ family, registry.find? .counter entry.1 = some family ∧
        family.content = .counter entry.2 :=
  mem_byName_iff h .counter (fun _ => rfl) Family.listedCounter?_eq_some_iff

theorem mem_properties_iff (h : registry.Sound) {entry : String × String} :
    entry ∈ registry.snapshot.properties ↔
      ∃ family, registry.find? .property entry.1 = some family ∧
        family.content = .property (some entry.2) :=
  mem_byName_iff h (fun value => .property (some value)) (fun _ => rfl)
    Family.listedProperty?_eq_some_iff

/-! ## §4 The Two Views -/

/-- What is found has lines under its exported name, when it has samples. -/
theorem linesNamed_of_find? (h : registry.Sound) {kind : Kind} {name : String} {family : Family}
    (hfind : registry.find? kind name = some family) (hfree : registry.IsFree (exportName name)) :
    linesNamed (exportName name) registry.lines =
      if (family.content.samples registry.trace).size = 0 then []
      else .help (exportName name) family.help ::
        .type (exportName name) (family.content.samples registry.trace).typeName ::
        samplesOf (exportName name) (family.content.samples registry.trace) := by
  have hkind := (isNamed_iff.1 (isNamed_of_find? hfind)).1
  -- the metric is exported under the exported form of the name that it is found under
  have hname := h.exportName_of_find? hfind
  have hlines := linesNamed_exportName h (List.mem_of_find?_eq_some hfind) (by simp [hkind])
    (hname.symm ▸ hfree)
  rw [hname] at hlines
  rw [hlines, Exposition.lines]
  simp only [exposed, hname]

theorem linesNamed_flag (h : registry.Sound) {name : String} {family : Family} {isSet : Bool}
    (hfind : registry.find? .flag name = some family) (hcontent : family.content = .flag isSet)
    (hfree : registry.IsFree (exportName name)) :
    linesNamed (exportName name) registry.lines =
      block (exportName name) family.help "gauge" [] (if isSet then "1" else "0") := by
  rw [linesNamed_of_find? h hfind hfree, hcontent]
  cases isSet <;> simp [Content.samples, Samples.size, samplesOf, block, Samples.typeName]

theorem linesNamed_property (h : registry.Sound) {name : String} {family : Family}
    {value? : Option String} (hfind : registry.find? .property name = some family)
    (hcontent : family.content = .property value?) (hfree : registry.IsFree (exportName name)) :
    linesNamed (exportName name) registry.lines =
      value?.elim [] fun value =>
        block (exportName name) family.help "gauge" [("value", value)] "1" := by
  rw [linesNamed_of_find? h hfind hfree, hcontent]
  cases value? with
  | none => rfl
  | some value => simp [Content.samples, Samples.size, samplesOf, block, Samples.typeName]

theorem linesNamed_counter (h : registry.Sound) {name : String} {family : Family} {value : UInt64}
    (hfind : registry.find? .counter name = some family)
    (hcontent : family.content = .counter value) (hfree : registry.IsFree (exportName name)) :
    linesNamed (exportName name) registry.lines =
      block (exportName name) family.help "counter" []
        (.ofList (Binary64.ofNat value.toNat).positional) := by
  rw [linesNamed_of_find? h hfind hfree, hcontent]
  rfl

/-- The lines of an export and the snapshot of a registry tell the same, where the entries are all that
    was done to the registry:

    - under the exported name of a flag, a counter or a property that the snapshot lists stand a line of
      help with the text of the first registration, a line with the type, and one with the number, which
      for counters is exact below `2 ^ 53`;
    - a property without a value has no lines;
    - no line stands under another name. -/
structure ViewsAgree (registry : Registry) (entries : List Entry) (lines : List Line) : Prop where
  flags : ∀ entry ∈ registry.snapshot.flags, ∃ help,
    (helpsFor .flag entry.1 entries).head? = some help ∧
    linesNamed (exportName entry.1) lines =
      block (exportName entry.1) help "gauge" [] (if entry.2 then "1" else "0")
  properties : ∀ entry ∈ registry.snapshot.properties, ∃ help,
    (helpsFor .property entry.1 entries).head? = some help ∧
    linesNamed (exportName entry.1) lines =
      block (exportName entry.1) help "gauge" [("value", entry.2)] "1"
  unset : ∀ name, (registry.find? .property name).isSome →
    (∀ value, (name, value) ∉ registry.snapshot.properties) →
    linesNamed (exportName name) lines = []
  counters : ∀ entry ∈ registry.snapshot.counters, ∃ help text,
    (helpsFor .counter entry.1 entries).head? = some help ∧
    linesNamed (exportName entry.1) lines = block (exportName entry.1) help "counter" [] text ∧
    (entry.2.toNat < 2 ^ 53 → text = Text.decimalText entry.2.toNat)
  nothingElse : ∀ line ∈ lines, ∃ name, line.name = exportName name ∧
    (name ∈ registry.snapshot.flags.map (·.1) ∨ name ∈ registry.snapshot.properties.map (·.1) ∨
      name ∈ registry.snapshot.counters.map (·.1))

/-- Without calls, all lines belong to flags, counters and properties that the snapshot lists. -/
theorem mem_lines (h : registry.Sound) (hquiet : registry.trace = .empty) {line : Line}
    (hline : line ∈ registry.lines) : ∃ name, line.name = exportName name ∧
      (name ∈ registry.snapshot.flags.map (·.1) ∨ name ∈ registry.snapshot.properties.map (·.1) ∨
        name ∈ registry.snapshot.counters.map (·.1)) := by
  obtain ⟨exposition, hexposition, hline⟩ := List.mem_flatMap.1 hline
  obtain ⟨hmem, hsize⟩ := List.mem_filter.1 ((gather_perm registry).mem_iff.1 hexposition)
  obtain ⟨family, hfamily, rfl⟩ := List.mem_map.1 hmem
  have hlineName := Exposition.name_mem_names hline
  -- what is no series of the trace has lines under its exported name only, and is found
  have hlisted : ∀ kind, family.content.kind? = some kind →
      line.name = exportName family.name ∧ registry.find? kind family.name = some family := by
    intro kind hkind
    have hfind := h.find?_of_mem hfamily hkind
    rw [names_exposed (by simp [hkind]), List.mem_singleton] at hlineName
    exact ⟨hlineName.trans (h.exportName_of_find? hfind), hfind⟩
  cases hcontent : family.content with
  | flag isSet =>
    obtain ⟨hname, hfind⟩ := hlisted .flag (by rw [hcontent]; rfl)
    have hmem : (family.name, isSet) ∈ registry.snapshot.flags :=
      (mem_flags_iff h).2 ⟨family, hfind, hcontent⟩
    exact ⟨family.name, hname, .inl (List.mem_map.2 ⟨_, hmem, rfl⟩)⟩
  | counter value =>
    obtain ⟨hname, hfind⟩ := hlisted .counter (by rw [hcontent]; rfl)
    have hmem : (family.name, value) ∈ registry.snapshot.counters :=
      (mem_counters_iff h).2 ⟨family, hfind, hcontent⟩
    exact ⟨family.name, hname, .inr (.inr (List.mem_map.2 ⟨_, hmem, rfl⟩))⟩
  | property value? =>
    cases value? with
    | none => simp [exposed, hcontent, Content.samples, Samples.size] at hsize
    | some value =>
      obtain ⟨hname, hfind⟩ := hlisted .property (by rw [hcontent]; rfl)
      have hmem : (family.name, value) ∈ registry.snapshot.properties :=
        (mem_properties_iff h).2 ⟨family, hfind, hcontent⟩
      exact ⟨family.name, hname, .inr (.inl (List.mem_map.2 ⟨_, hmem, rfl⟩))⟩
  | _ =>
    -- a series of the trace, which has no samples yet
    have hnone : (registry.exposed family).samples.size = 0 :=
      size_samples_of_quiet hquiet (by rw [hcontent]; rfl)
    simp [hnone] at hsize

end Registry

/-! ## §5 The Views of a Book -/

/-- The help text of what is found is the one of its first registration. -/
theorem Book.Balanced.head?_helpsFor {book : Book} (h : book.Balanced) {kind : Kind} {name : String}
    {family : Family} (hfind : book.registry.find? kind name = some family) :
    (helpsFor kind name book.entries).head? = some family.help := by
  rw [h.found, familyBy?] at hfind
  obtain ⟨help, hhead, rfl⟩ := Option.map_eq_some_iff.1 hfind
  exact hhead

/-- In a balanced book without calls the views agree. -/
theorem Book.Balanced.viewsAgree {book : Book} (h : book.Balanced)
    (hquiet : book.registry.trace = .empty) :
    book.registry.ViewsAgree book.entries book.registry.lines where
  flags entry hentry := by
    obtain ⟨family, hfind, hcontent⟩ := (Registry.mem_flags_iff h.sound).1 hentry
    exact ⟨family.help, h.head?_helpsFor hfind,
      Registry.linesNamed_flag h.sound hfind hcontent (.inl (hquiet ▸ rfl))⟩
  properties entry hentry := by
    obtain ⟨family, hfind, hcontent⟩ := (Registry.mem_properties_iff h.sound).1 hentry
    exact ⟨family.help, h.head?_helpsFor hfind,
      Registry.linesNamed_property h.sound hfind hcontent (.inl (hquiet ▸ rfl))⟩
  unset name hregistered hunset := by
    obtain ⟨family, hfind⟩ := Option.isSome_iff_exists.1 hregistered
    obtain ⟨_ | value, hcontent⟩ := Registry.exists_property hfind
    · exact Registry.linesNamed_property h.sound hfind hcontent (.inl (hquiet ▸ rfl))
    · have hlisted : (name, value) ∈ book.registry.snapshot.properties :=
        (Registry.mem_properties_iff h.sound).2 ⟨family, hfind, hcontent⟩
      exact absurd hlisted (hunset value)
  counters entry hentry := by
    obtain ⟨family, hfind, hcontent⟩ := (Registry.mem_counters_iff h.sound).1 hentry
    refine ⟨family.help, _, h.head?_helpsFor hfind,
      Registry.linesNamed_counter h.sound hfind hcontent (.inl (hquiet ▸ rfl)), fun hsmall => ?_⟩
    rw [Binary64.positional_ofNat hsmall, Text.decimalText]
  nothingElse _ hline := Registry.mem_lines h.sound hquiet hline

end RoleDaemon.Metrics

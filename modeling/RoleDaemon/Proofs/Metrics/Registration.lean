import Mathlib.Data.List.Nodup
import RoleDaemon.Proofs.Metrics.Flags

/-!
# Registration

What the registration of a metric does to a registry, and what holds of every registry that came about
by registrations and writes: no two metrics share an exported name, and every metric is exported under
the exported form of its own name.

## Architecture

- `Registry.declare_ok_cases`: a metric that can be registered is found, or added behind all others
- `Registry.find?_declare`: hence what is found under a name afterwards
- `Registry.Sound`: the invariant, kept by registrations and by changes of values

Main statements:
- `Registry.Sound.declare`, `Registry.Sound.modify`: the steps that keep the invariant
- `Registry.Sound.eq_of_exportName`, `Registry.Sound.kind_unique`: an exported name stands for one
  metric, and a name of the daemon for one kind
-/

namespace RoleDaemon.Metrics

/-! ## §1 What Can Be Registered -/

/-- A metric of a kind that was not written yet. -/
def Kind.blank : Kind → Content
  | flag => .flag false
  | counter => .counter 0
  | property => .property none

/-- The metric of a kind, as it is registered. -/
def Kind.family (kind : Kind) (name help : String) : Family :=
  ⟨name, exportName name, help, kind.blank⟩

@[simp] theorem Kind.kind?_blank (kind : Kind) : kind.blank.kind? = some kind := by
  cases kind <;> rfl

section

variable {kind : Kind} {name help : String}

@[simp] theorem Kind.name_family : (kind.family name help).name = name := rfl

@[simp] theorem Kind.exportName_family : (kind.family name help).exportName = exportName name := rfl

@[simp] theorem Kind.content_family : (kind.family name help).content = kind.blank := rfl

@[simp] theorem Kind.isNamed_family {kind' : Kind} {name' : String} :
    (kind.family name help).isNamed kind' name' ↔ kind = kind' ∧ name = name' := by
  simp [Registry.isNamed_iff]

end

/-- The metric is exported under the exported form of its name, or it is a series of the trace. -/
def Family.isWellNamed (family : Family) : Bool :=
  match family.content.kind? with
  | some _ => family.exportName = Metrics.exportName family.name
  | none => family ∈ Registry.traceFamilies

/-- The metric is one of those that are registered: it is well named, and was not written yet. -/
def Family.isDeclared (family : Family) : Bool :=
  family.isWellNamed && (family.content.kind?.map Kind.blank).all (· = family.content)

theorem Family.isDeclared_family (kind : Kind) (name help : String) :
    (kind.family name help).isDeclared := by
  simp [isDeclared, isWellNamed]

/-- What is registered under a kind and a name is the blank metric of both. -/
theorem Family.eq_family {family : Family} (hdeclared : family.isDeclared) {kind : Kind}
    {name : String} (hnamed : family.isNamed kind name) : family = kind.family name family.help := by
  obtain ⟨hkind, hname⟩ := Registry.isNamed_iff.1 hnamed
  simp only [isDeclared, isWellNamed, hkind, Option.map_some, Option.all_some, Bool.and_eq_true,
    decide_eq_true_eq] at hdeclared
  obtain ⟨hexport, hblank⟩ := hdeclared
  cases family
  simp_all [Kind.family]

/-- What stays of a metric while its value changes. -/
def Family.identity (family : Family) : String × String × String × Option Kind :=
  (family.name, family.exportName, family.help, family.content.kind?)

namespace Registry

/-! ## §2 Registering -/

theorem isTaken_iff {registry : Registry} {exportName : String} :
    registry.isTaken exportName ↔ ∃ other ∈ registry.families, other.exportName = exportName := by
  simp [isTaken]

theorem holds_family (registry : Registry) (kind : Kind) (name help : String) :
    registry.holds (kind.family name help) = (registry.find? kind name).isSome := by
  simp [holds]

theorem descriptionFault?_eq_none_iff {family : Family} :
    descriptionFault? family = none ↔ family.help ≠ "" ∧ isValidName family.exportName := by
  unfold descriptionFault?
  by_cases hhelp : family.help = "" <;> simp [hhelp]

/-- Registering succeeds where the metric is found, or where its description is accepted and its exported
    name is free, and then it is added behind all others. -/
theorem declare_ok_cases {registry registry' : Registry} {family : Family}
    (h : registry.declare family = .ok registry') :
    (registry.holds family ∧ registry' = registry) ∨
    (descriptionFault? family = none ∧ ¬ registry.isTaken family.exportName ∧
      registry' = { registry with families := registry.families ++ [family] }) := by
  unfold declare at h
  by_cases hholds : registry.holds family
  · rw [if_pos hholds] at h
    exact .inl ⟨hholds, (Except.ok.inj h).symm⟩
  · rw [if_neg hholds] at h
    cases hfault : descriptionFault? family with
    | some fault =>
      rw [hfault] at h
      cases h
    | none =>
      by_cases htaken : registry.isTaken family.exportName
      · simp only [hfault, if_pos htaken] at h
        cases h
      · simp only [hfault, if_neg htaken] at h
        exact .inr ⟨rfl, htaken, (Except.ok.inj h).symm⟩

theorem find?_append (registry : Registry) (family : Family) (kind : Kind) (name : String) :
    find? { registry with families := registry.families ++ [family] } kind name =
      (registry.find? kind name).or (if family.isNamed kind name then some family else none) := by
  simp [find?, List.find?_append, List.find?_singleton]

/-- After a registration the metric is found where none was found before. -/
theorem find?_declare {registry registry' : Registry} {family : Family}
    (h : registry.declare family = .ok registry') (kind : Kind) (name : String) :
    registry'.find? kind name =
      (registry.find? kind name).or (if family.isNamed kind name then some family else none) := by
  obtain ⟨hholds, rfl⟩ | ⟨-, -, rfl⟩ := declare_ok_cases h
  · -- the metric was there already, so it is found before and after
    by_cases hnamed : family.isNamed kind name
    · obtain ⟨hkind, rfl⟩ := isNamed_iff.1 hnamed
      simp only [holds, hkind] at hholds
      obtain ⟨found, hfound⟩ := Option.isSome_iff_exists.1 hholds
      simp [hfound]
    · simp [hnamed]
  · exact registry.find?_append family kind name

/-- Nothing changes where no metric has the kind and the name. -/
theorem modify_of_find?_eq_none {registry : Registry} {kind : Kind} {name : String}
    (h : registry.find? kind name = none) (change : Content → Content) :
    registry.modify kind name change = registry := by
  have hfamilies : (registry.modify kind name change).families = registry.families := by
    simp only [find?, List.find?_eq_none] at h
    exact (List.map_congr_left fun family hfamily => if_neg (h family hfamily)).trans
      (List.map_id' _)
  obtain ⟨families, trace⟩ := registry
  exact congrArg (Registry.mk · trace) hfamilies

/-- What is found under the kind and the name of a change has the changed value. -/
theorem find?_modify_self {registry : Registry} {kind : Kind} {name : String} {family : Family}
    (h : registry.find? kind name = some family) {change : Content → Content}
    (hchange : KeepsKind kind change) :
    (registry.modify kind name change).find? kind name =
      some { family with content := change family.content } := by
  rw [find?_modify registry kind kind name name hchange, h, Option.map_some,
    if_pos (isNamed_of_find? h)]

/-! ## §3 What a Registration Leaves -/

/-- A change of values changes neither the metrics nor their order. -/
theorem map_identity_modify (registry : Registry) {kind : Kind} (name : String)
    {change : Content → Content} (hchange : KeepsKind kind change) :
    (registry.modify kind name change).families.map Family.identity =
      registry.families.map Family.identity := by
  simp only [modify, List.map_map]
  apply List.map_congr_left
  intro family _
  simp only [Function.comp_apply]
  split
  · rename_i hnamed
    have hkind := (isNamed_iff.1 hnamed).1
    simp only [Family.identity, hchange family.content hkind, hkind]
  · rfl

/-- A registration leaves the metrics that were there, and their order. -/
theorem prefix_identity_declare {registry registry' : Registry} {family : Family}
    (h : registry.declare family = .ok registry') :
    registry.families.map Family.identity <+: registry'.families.map Family.identity := by
  obtain ⟨-, rfl⟩ | ⟨-, -, rfl⟩ := declare_ok_cases h
  · exact List.prefix_rfl
  · exact List.IsPrefix.map _ (List.prefix_append _ _)

/-! ## §4 Sound Registries -/

/-- The invariant of all registries: no two metrics share an exported name, and each one is well named
    and has a description that is accepted. -/
structure Sound (registry : Registry) : Prop where
  distinct : (registry.families.map (·.exportName)).Nodup
  wellNamed : ∀ family ∈ registry.families, family.isWellNamed
  described : ∀ family ∈ registry.families, descriptionFault? family = none

namespace Sound

variable {registry : Registry}

theorem empty : Sound .empty := ⟨List.nodup_nil, by simp [Registry.empty], by simp [Registry.empty]⟩

theorem declare (h : Sound registry) {registry' : Registry} {family : Family}
    (hfamily : family.isWellNamed) (hdeclare : registry.declare family = .ok registry') :
    Sound registry' := by
  obtain ⟨-, rfl⟩ | ⟨hfault, htaken, rfl⟩ := declare_ok_cases hdeclare
  · exact h
  · refine ⟨?_, ?_, ?_⟩
    · rw [List.map_append]
      apply List.Nodup.append h.distinct (List.nodup_singleton _)
      -- the new name is the only one behind, and it was not taken
      intro name hname hnew
      obtain rfl := List.mem_singleton.1 hnew
      obtain ⟨other, hother, heq⟩ := List.mem_map.1 hname
      exact htaken (isTaken_iff.2 ⟨other, hother, heq⟩)
    · simpa [or_imp, forall_and, hfamily] using h.wellNamed
    · simpa [or_imp, forall_and, hfault] using h.described

theorem modify (h : Sound registry) {kind : Kind} (name : String) {change : Content → Content}
    (hchange : KeepsKind kind change) : Sound (registry.modify kind name change) := by
  -- each metric is an old one, or one of the kind with a changed value
  have hmem : ∀ family ∈ (registry.modify kind name change).families, ∃ old ∈ registry.families,
      family = old ∨ old.content.kind? = some kind ∧
        family = { old with content := change old.content } := by
    intro family hfamily
    obtain ⟨old, hold, rfl⟩ := List.mem_map.1 hfamily
    refine ⟨old, hold, ?_⟩
    split
    · rename_i hnamed
      exact .inr ⟨(isNamed_iff.1 hnamed).1, rfl⟩
    · exact .inl rfl
  refine ⟨?_, ?_, ?_⟩
  · have hnames : (registry.modify kind name change).families.map (·.exportName) =
        registry.families.map (·.exportName) := by
      have hidentity := congrArg (List.map (·.2.1)) (registry.map_identity_modify name hchange)
      simpa [Function.comp_def, Family.identity] using hidentity
    rw [hnames]
    exact h.distinct
  · intro family hfamily
    obtain ⟨old, hold, rfl | ⟨hkind, rfl⟩⟩ := hmem family hfamily
    · exact h.wellNamed family hold
    · have hwell := h.wellNamed old hold
      simp only [Family.isWellNamed, hkind] at hwell
      simpa only [Family.isWellNamed, hchange old.content hkind] using hwell
  · intro family hfamily
    obtain ⟨old, hold, rfl | ⟨hkind, rfl⟩⟩ := hmem family hfamily
    · exact h.described family hold
    · exact h.described old hold

theorem eq_of_exportName (h : Sound registry) {a b : Family} (ha : a ∈ registry.families)
    (hb : b ∈ registry.families) (hname : a.exportName = b.exportName) : a = b :=
  List.inj_on_of_nodup_map h.distinct ha hb hname

theorem exportName_of_find? (h : Sound registry) {kind : Kind} {name : String} {family : Family}
    (hfind : registry.find? kind name = some family) : family.exportName = exportName name := by
  obtain ⟨hkind, rfl⟩ := isNamed_iff.1 (isNamed_of_find? hfind)
  have hwell := h.wellNamed family (List.mem_of_find?_eq_some hfind)
  simpa only [Family.isWellNamed, hkind, decide_eq_true_eq] using hwell

/-- A name of the daemon belongs to one kind of metrics at most. -/
theorem kind_unique (h : Sound registry) {kind kind' : Kind} {name : String}
    (hkind : (registry.find? kind name).isSome) (hkind' : (registry.find? kind' name).isSome) :
    kind = kind' := by
  obtain ⟨a, ha⟩ := Option.isSome_iff_exists.1 hkind
  obtain ⟨b, hb⟩ := Option.isSome_iff_exists.1 hkind'
  have hname : a.exportName = b.exportName :=
    (h.exportName_of_find? ha).trans (h.exportName_of_find? hb).symm
  obtain rfl := h.eq_of_exportName (List.mem_of_find?_eq_some ha) (List.mem_of_find?_eq_some hb) hname
  have hka := (isNamed_iff.1 (isNamed_of_find? ha)).1
  exact Option.some.inj (hka.symm.trans (isNamed_iff.1 (isNamed_of_find? hb)).1)

/-- Just one metric has the exported name of a metric. -/
theorem filter_exportName (h : Sound registry) {family : Family}
    (hfamily : family ∈ registry.families) :
    registry.families.filter (fun other => other.exportName = family.exportName) = [family] := by
  have hnodup : registry.families.Nodup := h.distinct.of_map
  -- exported names tell the metrics apart
  have hsame : registry.families.filter (fun other => other.exportName = family.exportName) =
      registry.families.filter (· = family) := by
    apply List.filter_congr
    intro other hother
    have hiff : other.exportName = family.exportName ↔ other = family :=
      ⟨h.eq_of_exportName hother hfamily, fun heq => congrArg Family.exportName heq⟩
    simp [hiff]
  rw [hsame, List.filter_eq, List.count_eq_one_of_mem hnodup hfamily]
  rfl

/-- A metric of the registry is the one that is found under its kind and its name. -/
theorem find?_of_mem (h : Sound registry) {family : Family} (hfamily : family ∈ registry.families)
    {kind : Kind} (hkind : family.content.kind? = some kind) :
    registry.find? kind family.name = some family := by
  cases hfind : registry.find? kind family.name with
  | none =>
    simp only [find?, List.find?_eq_none] at hfind
    exact absurd (isNamed_iff.2 ⟨hkind, rfl⟩) (hfind family hfamily)
  | some found =>
    have hwell := h.wellNamed family hfamily
    simp only [Family.isWellNamed, hkind, decide_eq_true_eq] at hwell
    have hname : found.exportName = family.exportName :=
      (h.exportName_of_find? hfind).trans hwell.symm
    rw [h.eq_of_exportName (List.mem_of_find?_eq_some hfind) hfamily hname]

/-- What is found does not depend on the order of the metrics. -/
theorem find?_eq_some_iff (h : Sound registry) {kind : Kind} {name : String} {family : Family} :
    registry.find? kind name = some family ↔
      family ∈ registry.families ∧ family.isNamed kind name := by
  constructor
  · exact fun hfind => ⟨List.mem_of_find?_eq_some hfind, isNamed_of_find? hfind⟩
  · rintro ⟨hfamily, hnamed⟩
    obtain ⟨hkind, rfl⟩ := isNamed_iff.1 hnamed
    exact h.find?_of_mem hfamily hkind

end Sound

end Registry

end RoleDaemon.Metrics

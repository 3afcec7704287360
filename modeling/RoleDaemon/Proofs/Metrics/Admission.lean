import RoleDaemon.Proofs.Metrics.Refusal
import RoleDaemon.Proofs.Metrics.Sequence

/-!
# Admission of Metrics

When a metric is admitted to a registry, and what its registration does there.  It is found again under
its kind and its name, or it is added behind all others, or it is refused, and then it is as if the
registration had not been tried.

## Architecture

- `IsExportable`: the names under which a metric can be exported
- `Registry.declare_family_ok_iff`: what can be registered
- `Registry.HandleAt`: the metric that is read and written through a name, `Registry.place?_reached`: it
  stays at its place
- `Registry.Adds`: a registry and what it was before one metric was added
- `Registry.runAll_refused`, `Registry.replies_refused`: what a refused registration leaves

Main statements:
- `Registry.declare_admits_or_changes_nothing`: when a registration succeeds, and what it does in each
  case
-/

namespace RoleDaemon.Metrics

/-! ## §1 What Can Be Registered -/

/-- A metric with the name can be exported: the name is not empty, and does not start with a digit of
    ASCII.  All other characters are allowed, since the exported form replaces them. -/
def IsExportable (name : String) : Prop :=
  name ≠ "" ∧ ∀ c, name.toList.head? = some c → ¬ c.isDigit

/-- The exported form of a character may stand in an exported name, and it is a digit just when the
    character is one. -/
theorem exported_char (c : Char) :
    let exported := if isNameChar c then c else '_'
    isNameChar exported ∧ isNameDigit exported = c.isDigit := by
  have hdigit : isNameDigit c = c.isDigit := by
    simp [isNameDigit, Char.isDigit, UInt32.le_iff_toNat_le]
  by_cases hchar : isNameChar c
  · simp [hchar, hdigit]
  · have hother : isNameDigit c = false := by
      simp only [isNameChar, isNameDigit] at hchar ⊢
      grind
    simp only [if_neg hchar]
    exact ⟨by decide, hother.symm.trans hdigit⟩

theorem isValidName_exportName_iff (name : String) :
    isValidName (exportName name) ↔ IsExportable name := by
  have hempty : name = "" ↔ name.toList = [] := String.toList_eq_nil_iff.symm
  unfold isValidName IsExportable
  -- after the replacement only the first character can still be wrong
  rw [exportName, String.toList_ofList, Ne, hempty]
  cases name.toList with
  | nil => simp
  | cons c cs => simp [exported_char]

namespace Registry

variable {registry : Registry} {kind : Kind} {name help : String}

/-- A metric can be registered when it is there already, or when its description is accepted and its
    exported name is free. -/
theorem declare_family_ok_iff (registry : Registry) (kind : Kind) (name help : String) :
    (∃ after, registry.declare (kind.family name help) = .ok after) ↔
      (registry.find? kind name).isSome ∨ help ≠ "" ∧ IsExportable name ∧
        ∀ other ∈ registry.families, other.exportName ≠ exportName name := by
  have hfree : (∀ other ∈ registry.families, other.exportName ≠ exportName name) ↔
      ¬ registry.isTaken (kind.family name help).exportName := by
    simp [isTaken_iff]
  have hdescribed : descriptionFault? (kind.family name help) = none ↔
      help ≠ "" ∧ IsExportable name :=
    descriptionFault?_eq_none_iff.trans (and_congr_right' (isValidName_exportName_iff name))
  rw [hfree, ← and_assoc, ← hdescribed, ← holds_family registry kind name help]
  constructor
  · rintro ⟨after, hdeclare⟩
    obtain ⟨hholds, -⟩ | ⟨hfault, htaken, -⟩ := declare_ok_cases hdeclare
    · exact .inl hholds
    · exact .inr ⟨hfault, htaken⟩
  · rintro (hholds | ⟨hfault, htaken⟩)
    · exact ⟨registry, if_pos hholds⟩
    · cases hdeclare : registry.declare (kind.family name help) with
      | ok after => exact ⟨after, rfl⟩
      | error cause =>
        -- only an exported name that is taken is left as a reason
        have hblocked := blocks_of_declare hfault hdeclare
        rw [blocks, Bool.and_eq_true] at hblocked
        exact absurd hblocked.2 htaken

/-! ## §2 Metrics That Are Found Again -/

/-- The place of a metric in the order of registration. -/
def place? (registry : Registry) (kind : Kind) (name : String) : Option Nat :=
  registry.families.findIdx? (Family.isNamed kind name)

/-- What is read and written through the name of a metric is the metric at one place.

    - `found`: what is read through the name stands at the place;
    - `written`: what is written through the name is written at the place, and nowhere else. -/
structure HandleAt (registry : Registry) (kind : Kind) (name : String) (place : Nat) : Prop where
  found : registry.find? kind name = registry.families[place]?
  written : ∀ change, (registry.modify kind name change).families =
    registry.families.modify place fun family => { family with content := change family.content }

/-- The place of a metric is the place of its identity. -/
theorem place?_eq_findIdx? (registry : Registry) (kind : Kind) (name : String) :
    registry.place? kind name = (registry.families.map Family.identity).findIdx?
      fun identity => identity.2.2.2 = some kind && identity.1 = name := by
  rw [List.findIdx?_map]
  rfl

theorem isSome_place? (registry : Registry) (kind : Kind) (name : String) :
    (registry.place? kind name).isSome = (registry.find? kind name).isSome := by
  rw [place?, find?, List.findIdx?_isSome, Bool.eq_iff_iff, List.find?_isSome, List.any_eq_true]

theorem Sound.handleAt (h : registry.Sound) {place : Nat}
    (hplace : registry.place? kind name = some place) : registry.HandleAt kind name place := by
  obtain ⟨hlt, hnamed, -⟩ := List.findIdx?_eq_some_iff_getElem.1 hplace
  have hfind : registry.find? kind name = some registry.families[place] :=
    h.find?_eq_some_iff.2 ⟨List.getElem_mem hlt, hnamed⟩
  have hnodup : registry.families.Nodup := h.distinct.of_map
  refine ⟨by rw [hfind, List.getElem?_eq_getElem hlt], fun change => ?_⟩
  apply List.ext_getElem?
  intro i
  simp only [Registry.modify, List.getElem?_map, List.getElem?_modify]
  cases hi : registry.families[i]? with
  | none => rfl
  | some family =>
    obtain ⟨hlt', rfl⟩ := List.getElem?_eq_some_iff.1 hi
    -- the metric that is found is at no other place
    have hsame : registry.families[i].isNamed kind name ↔
        registry.families[place] = registry.families[i] := by
      constructor
      · intro hother
        have hfindOther := h.find?_eq_some_iff.2 ⟨List.getElem_mem hlt', hother⟩
        exact Option.some.inj (hfind.symm.trans hfindOther)
      · exact fun heq => heq ▸ hnamed
    have hiff : registry.families[i].isNamed kind name ↔ place = i :=
      hsame.trans hnodup.getElem_inj_iff
    simp [hiff]

/-- A metric stays at its place, whatever happens. -/
theorem place?_reached {taken : List Net.Endpoint} {earlier : List ProcessEvent} {place : Nat}
    (hplace : (reached taken earlier).place? kind name = some place) (later : List ProcessEvent) :
    (reached taken (earlier ++ later)).place? kind name = some place := by
  rw [place?_eq_findIdx?] at hplace ⊢
  exact (prefix_identity_reached taken earlier later).findIdx?_eq_some hplace

/-! ## §3 Metrics That Are Added -/

/-- A snapshot lists a new metric of a kind in addition: flags as not set, and counters as zero.  A new
    property has no value, and is not listed. -/
def ListsNew (before after : Snapshot) (name : String) : Kind → Prop
  | .flag => after.flags.Perm ((name, false) :: before.flags) ∧
      after.counters = before.counters ∧ after.properties = before.properties
  | .counter => after.flags = before.flags ∧
      after.counters.Perm ((name, 0) :: before.counters) ∧ after.properties = before.properties
  | .property => after = before

/-- The gathered families have a new metric of a kind in addition: flags and counters with one sample,
    which is zero.  A new property has no sample, and is left out. -/
def GathersNew (before after : List Exposition) (name help : String) : Kind → Prop
  | .flag => after.Perm (⟨exportName name, help, .gauge [([], 0)]⟩ :: before)
  | .counter => after.Perm (⟨exportName name, help, .counter [([], 0)]⟩ :: before)
  | .property => after = before

/-- The registry has one metric more, of a kind, with a name and a help text, which was not written yet:
    a flag that is not set, a counter at zero, or a property without a value.

    - `families`, `trace`: the metric stands behind all others, and the trace is the same;
    - `found`, `others`: it is found under its kind and its name, and nothing else is found anew;
    - `snapshot`, `gather`: the snapshot and the export show it, and what they showed before. -/
structure Adds (before after : Registry) (kind : Kind) (name help : String) : Prop where
  families : after.families = before.families ++ [kind.family name help]
  trace : after.trace = before.trace
  found : after.find? kind name = some (kind.family name help)
  others : ∀ kind' name', (kind', name') ≠ (kind, name) →
    after.find? kind' name' = before.find? kind' name'
  snapshot : ListsNew before.snapshot after.snapshot name kind
  gather : GathersNew before.gather after.gather name help kind

variable {after : Registry}

/-- Entries by name, and those of one metric more. -/
theorem byName_append {α : Type} (families : List Family) (family : Family)
    (listed? : Family → Option (String × α)) :
    (byName ((families ++ [family]).filterMap listed?)).Perm
      ((listed? family).toList ++ byName (families.filterMap listed?)) := by
  have hlast : [family].filterMap listed? = (listed? family).toList := by
    cases hlisted : listed? family <;> simp [hlisted]
  refine (List.mergeSort_perm _ _).trans ?_
  rw [List.filterMap_append, hlast]
  exact List.perm_append_comm.trans (.append_left _ (List.mergeSort_perm _ _).symm)

theorem listsNew_append (registry : Registry) (kind : Kind) (name help : String) :
    ListsNew registry.snapshot
      (snapshot { registry with families := registry.families ++ [kind.family name help] }) name
      kind := by
  -- the metric has an entry among those of its kind only
  cases kind with
  | flag =>
    refine ⟨byName_append registry.families _ Family.listedFlag?, ?_, ?_⟩ <;>
      simp [snapshot_eq, List.filterMap_cons, Family.listedCounter?, Family.listedProperty?,
        Kind.blank]
  | counter =>
    refine ⟨?_, byName_append registry.families _ Family.listedCounter?, ?_⟩ <;>
      simp [snapshot_eq, List.filterMap_cons, Family.listedFlag?, Family.listedProperty?,
        Kind.blank]
  | property =>
    simp [ListsNew, snapshot_eq, List.filterMap_cons, Family.listedFlag?, Family.listedCounter?,
      Family.listedProperty?, Kind.blank]

theorem gathersNew_append (registry : Registry) (kind : Kind) (name help : String) :
    GathersNew registry.gather
      (gather { registry with families := registry.families ++ [kind.family name help] }) name help
      kind := by
  have hperm : (gather { registry with families := registry.families ++
      [kind.family name help] }).Perm
        (([registry.exposed (kind.family name help)].filter fun family => family.samples.size != 0) ++
          registry.gather) := by
    refine (gather_perm _).trans ?_
    rw [List.map_append, List.filter_append]
    exact List.perm_append_comm.trans (.append_left _ (gather_perm registry).symm)
  cases kind with
  | flag => exact hperm
  | counter => exact hperm
  | property =>
    -- the new family is left out before the families are sorted
    simp [GathersNew, gather, Kind.blank, Content.samples, Samples.size]

/-- A metric that is not there is added by its registration. -/
theorem adds_of_declare (hnone : registry.find? kind name = none)
    (hdeclare : registry.declare (kind.family name help) = .ok after) :
    registry.Adds after kind name help := by
  obtain ⟨hholds, -⟩ | ⟨-, -, rfl⟩ := declare_ok_cases hdeclare
  · rw [holds_family, hnone] at hholds
    cases hholds
  · refine ⟨rfl, rfl, ?_, fun kind' name' hne => ?_, listsNew_append registry kind name help,
      gathersNew_append registry kind name help⟩
    · rw [find?_append, hnone, Option.none_or, if_pos (Kind.isNamed_family.2 ⟨rfl, rfl⟩)]
    · have hother : ¬ (kind.family name help).isNamed kind' name' := by
        intro hnamed
        obtain ⟨rfl, rfl⟩ := Kind.isNamed_family.1 hnamed
        exact hne rfl
      rw [find?_append, if_neg hother, Option.or_none]

/-! ## §4 Metrics That Are Refused -/

/-- A refused registration does nothing. -/
theorem step_refused {family : Family} {cause : Cause}
    (hdeclare : registry.declare family = .error cause) :
    registry.step (.register family) = registry := by
  rw [step_eq]
  split
  · rw [Action.run, hdeclare]
  · rfl

/-- The process goes on as if the registration had not been tried. -/
theorem runAll_refused {machine : Machine} {family : Family} {cause : Cause}
    (hdeclare : machine.metrics.declare family = .error cause) (later : List ProcessEvent) :
    ProcessEvent.runAll machine (.operate (.act (.register family)) :: later) =
      ProcessEvent.runAll machine later := by
  have hrun : ProcessEvent.run machine (.operate (.act (.register family))) = machine := by
    simp only [ProcessEvent.run, Operation.run, Action.run, hdeclare]
    split <;> rfl
  rw [ProcessEvent.runAll, List.foldl_cons, hrun]
  rfl

/-- Only the refused registration is told that it was refused, and later actions are told the same as
    without it. -/
theorem replies_refused {cause : Cause}
    (hdeclare : registry.declare (kind.family name help) = .error cause) (later : List Action) :
    registry.replies (.register (kind.family name help) :: later) =
      (.register (kind.family name help), some ⟨.error cause, none⟩) :: registry.replies later := by
  have hnone : registry.find? kind name = none := by
    cases hfind : registry.find? kind name with
    | none => rfl
    -- a metric that is there is never refused
    | some family =>
      rw [declare, if_pos (by rw [holds_family, hfind]; rfl)] at hdeclare
      cases hdeclare
  have hreply : Action.reply registry (.register (kind.family name help)) = ⟨.error cause, none⟩ := by
    simp [Action.reply, Action.answer, Action.run, Action.target, hdeclare, hnone, Except.map]
  have hpossible : Action.isPossible registry (.register (kind.family name help)) :=
    Family.isDeclared_family kind name help
  rw [replies, step_refused hdeclare, reply?, if_pos hpossible, hreply]

/-! ## §5 All Registrations -/

/-- **A registration succeeds exactly when it should, and leaves nothing when it fails.**  A metric of
    some kind is registered in a process, after any events:

    - the registration succeeds just when the kind has a metric of exactly this name already, or else the
      help text is not empty, the name is not empty and starts with no digit of ASCII, and no metric of
      any kind, the series of the trace included, has the exported form of the name;
    - a metric that is there already is found again, whatever the help text is, and the registry is not
      changed.  What is read and written through the name is the metric at one place.  At any time before,
      when the metric was there already, it was the one at the same place, and no metric has moved since;
    - otherwise just one metric is added, which was not written yet, and the others stay as they are;
    - a refused registration leaves no trace: the process goes on as if it had not been tried, the
      registry with all of its views is the same, and later registrations and writes are told the same. -/
theorem declare_admits_or_changes_nothing (taken : List Net.Endpoint) (events : List ProcessEvent)
    (kind : Kind) (name help : String) :
    let registry := reached taken events
    let family := kind.family name help
    ((∃ after, registry.declare family = .ok after) ↔
      (registry.find? kind name).isSome ∨ help ≠ "" ∧ IsExportable name ∧
        ∀ other ∈ registry.families, other.exportName ≠ exportName name) ∧
    ((registry.find? kind name).isSome → registry.declare family = .ok registry ∧
      ∃ place, registry.HandleAt kind name place ∧
        ∀ earlier later, earlier ++ later = events →
          ((reached taken earlier).find? kind name).isSome →
          (reached taken earlier).HandleAt kind name place ∧
            (reached taken earlier).families.map Family.identity <+:
              registry.families.map Family.identity) ∧
    (∀ after, registry.find? kind name = none → registry.declare family = .ok after →
      registry.Adds after kind name help) ∧
    (∀ cause, registry.declare family = .error cause →
      (∀ later, ProcessEvent.runAll (.fresh taken)
          (events ++ .operate (.act (.register family)) :: later) =
        ProcessEvent.runAll (.fresh taken) (events ++ later)) ∧
      registry.step (.register family) = registry ∧
      ∀ later, registry.replies (.register family :: later) =
        (.register family, some ⟨.error cause, none⟩) :: registry.replies later) := by
  intro registry family
  have hsound : registry.Sound := sound_reached taken events
  refine ⟨declare_family_ok_iff registry kind name help, fun hsome => ?_,
    fun after hnone hdeclare => adds_of_declare hnone hdeclare, fun cause hdeclare => ?_⟩
  · have hholds : registry.holds family := (holds_family registry kind name help).trans hsome
    obtain ⟨place, hplace⟩ := Option.isSome_iff_exists.1
      ((isSome_place? registry kind name).trans hsome)
    refine ⟨if_pos hholds, place, hsound.handleAt hplace, ?_⟩
    rintro earlier later rfl hearlier
    obtain ⟨place', hplace'⟩ := Option.isSome_iff_exists.1
      ((isSome_place? (reached taken earlier) kind name).trans hearlier)
    -- the earlier place is still the place of the metric
    have hsame : some place' = some place := (place?_reached hplace' later).symm.trans hplace
    cases hsame
    exact ⟨(sound_reached taken earlier).handleAt hplace',
      prefix_identity_reached taken earlier later⟩
  · refine ⟨fun later => ?_, step_refused hdeclare, replies_refused hdeclare⟩
    rw [ProcessEvent.runAll, List.foldl_append, ProcessEvent.runAll, List.foldl_append]
    exact runAll_refused hdeclare later

end Registry

end RoleDaemon.Metrics

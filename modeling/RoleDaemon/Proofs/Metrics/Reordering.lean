import RoleDaemon.Proofs.Metrics.Sequence

/-!
# Reordering Actions

Actions on metrics with different exported names do not depend on each other.  A sequence of actions
may be reordered, as long as those with one exported name stay in their order: each action is told the
same, and the views of the registry, which are sorted, are the same afterwards.

## Architecture

- `Registry.restrict`: the part of a registry with one exported name
- `Action.run_restrict`, `Action.restrict_run_of_ne`: an action needs the part with its own exported
  name only, and changes no other
- `Registry.restrict_steps`, `Registry.filter_replies`: hence a part of the registry goes through the
  actions with its exported name only
- `Registry.snapshot_eq_of_perm`, `Registry.gather_eq_of_perm`: the views do not depend on the order of
  the metrics

Main statements:
- `Registry.views_of_isReordering`: replies and views after a sequence that was reordered
-/

namespace RoleDaemon.Metrics

/-! ## §1 Reordered Sequences -/

/-- The exported name of the metric that an action is about. -/
def Action.exportName : Action → String
  | register family => family.exportName
  | setFlag name => Metrics.exportName name
  | setProperty name _ => Metrics.exportName name
  | increment name _ => Metrics.exportName name

/-- The actions with an exported name are the same in both sequences, and in the same order.  Nothing is
    said about the order of two actions with different exported names. -/
def IsReordering (actions reordered : List Action) : Prop :=
  ∀ exportName, actions.filter (·.exportName = exportName) =
    reordered.filter (·.exportName = exportName)

/-- Only the exported names that occur need to be looked at. -/
theorem isReordering_iff {actions reordered : List Action} :
    IsReordering actions reordered ↔ ∀ action ∈ actions ++ reordered,
      actions.filter (·.exportName = action.exportName) =
        reordered.filter (·.exportName = action.exportName) := by
  refine ⟨fun h action _ => h action.exportName, fun h e => ?_⟩
  by_cases hname : ∃ action ∈ actions ++ reordered, action.exportName = e
  · obtain ⟨action, haction, rfl⟩ := hname
    exact h action haction
  · -- a name that does not occur has no actions in either sequence
    have hnone : (actions ++ reordered).filter (·.exportName = e) = [] :=
      List.filter_eq_nil_iff.2 fun action haction heq =>
        hname ⟨action, haction, of_decide_eq_true heq⟩
    rw [List.filter_append, List.append_eq_nil_iff] at hnone
    rw [hnone.1, hnone.2]

instance (actions reordered : List Action) : Decidable (IsReordering actions reordered) :=
  decidable_of_iff _ isReordering_iff.symm

/-- Lists with the same items for each key have the same items. -/
theorem perm_of_filter_eq {α κ : Type} [DecidableEq α] [DecidableEq κ] (key : α → κ)
    {as bs : List α} (h : ∀ k, as.filter (key · = k) = bs.filter (key · = k)) : as.Perm bs := by
  rw [List.perm_iff_count]
  intro a
  -- the copies of an item are among the items with its key
  have hcount : ∀ items : List α, (items.filter (key · = key a)).count a = items.count a :=
    fun items => List.count_filter (decide_eq_true rfl)
  rw [← hcount as, h (key a), hcount bs]

/-- A reordered sequence has the same actions, each of them as often. -/
theorem IsReordering.perm {actions reordered : List Action} (h : IsReordering actions reordered) :
    actions.Perm reordered :=
  perm_of_filter_eq Action.exportName h

/-! ## §2 Parts of a Registry -/

namespace Registry

/-- The part of a registry with an exported name, and the trace. -/
def restrict (registry : Registry) (exportName : String) : Registry :=
  { registry with families := registry.families.filter (·.exportName = exportName) }

variable {registry : Registry} {e : String}

theorem Sound.restrict (h : registry.Sound) (e : String) : (registry.restrict e).Sound where
  distinct := h.distinct.sublist (List.filter_sublist.map _)
  wellNamed family hfamily := h.wellNamed family (List.mem_filter.1 hfamily).1
  described family hfamily := h.described family (List.mem_filter.1 hfamily).1

theorem find?_restrict (h : registry.Sound) (kind : Kind) (name : String) :
    (registry.restrict (exportName name)).find? kind name = registry.find? kind name := by
  apply Option.ext
  intro family
  rw [(h.restrict _).find?_eq_some_iff, h.find?_eq_some_iff, Registry.restrict, List.mem_filter]
  constructor
  · rintro ⟨⟨hfamily, -⟩, hnamed⟩
    exact ⟨hfamily, hnamed⟩
  · rintro ⟨hfamily, hnamed⟩
    -- what is found under a name has the exported form of the name
    have hname := h.exportName_of_find? (h.find?_eq_some_iff.2 ⟨hfamily, hnamed⟩)
    exact ⟨⟨hfamily, decide_eq_true hname⟩, hnamed⟩

theorem find?_restrict_of_ne (h : registry.Sound) (kind : Kind) {name : String}
    (hne : exportName name ≠ e) : (registry.restrict e).find? kind name = none := by
  apply Option.eq_none_iff_forall_ne_some.2
  intro family hfind
  have hname := (h.restrict e).exportName_of_find? hfind
  have hmem := (List.mem_filter.1 (List.mem_of_find?_eq_some hfind)).2
  exact hne (hname.symm.trans (of_decide_eq_true hmem))

theorem isTaken_restrict (registry : Registry) (e : String) :
    (registry.restrict e).isTaken e = registry.isTaken e := by
  simp [isTaken, restrict, List.any_filter]

theorem restrict_modify (registry : Registry) (e : String) (kind : Kind) (name : String)
    (change : Content → Content) :
    (registry.modify kind name change).restrict e = (registry.restrict e).modify kind name change := by
  -- the exported names stay
  have hname : (fun family : Family => decide (family.exportName = e)) ∘ (fun family : Family =>
      if family.isNamed kind name then { family with content := change family.content }
      else family) = fun family => decide (family.exportName = e) := by
    funext family
    simp only [Function.comp_apply]
    split <;> rfl
  simp only [restrict, modify, List.filter_map, hname]

theorem restrict_modify_of_ne (h : registry.Sound) (kind : Kind) {name : String}
    (change : Content → Content) (hne : exportName name ≠ e) :
    (registry.modify kind name change).restrict e = registry.restrict e := by
  rw [restrict_modify, modify_of_find?_eq_none (find?_restrict_of_ne h kind hne)]

theorem holds_restrict (h : registry.Sound) {family : Family} (hwell : family.isWellNamed) :
    (registry.restrict family.exportName).holds family = registry.holds family := by
  cases hkind : family.content.kind? with
  | none => simp only [holds, hkind]
  | some kind =>
    simp only [Family.isWellNamed, hkind, decide_eq_true_eq] at hwell
    simp only [holds, hkind, hwell, find?_restrict h]

/-- A registration needs the part with the exported name only. -/
theorem declare_restrict (h : registry.Sound) {family : Family} (hwell : family.isWellNamed) :
    (registry.restrict family.exportName).declare family =
      (registry.declare family).map (·.restrict family.exportName) := by
  -- all that is asked of the registry is whether it holds the metric, and whether the name is taken
  simp only [declare, holds_restrict h hwell, isTaken_restrict]
  by_cases hholds : registry.holds family
  · rw [if_pos hholds, if_pos hholds]
    rfl
  · rw [if_neg hholds, if_neg hholds]
    cases hfault : descriptionFault? family with
    | some fault => rfl
    | none =>
      by_cases htaken : registry.isTaken family.exportName
      · simp only [if_pos htaken]
        rfl
      · simp only [if_neg htaken]
        simp [Except.map, restrict, List.filter_append]

theorem restrict_declare_of_ne {family : Family} {after : Registry}
    (hdeclare : registry.declare family = .ok after) (hne : family.exportName ≠ e) :
    after.restrict e = registry.restrict e := by
  obtain ⟨-, rfl⟩ | ⟨-, -, rfl⟩ := declare_ok_cases hdeclare
  · rfl
  · simp [restrict, List.filter_append, hne]

end Registry

/-! ## §3 Actions on a Part -/

namespace Action

variable {action : Action} {registry : Registry} {e : String}

theorem exportName_target {kind : Kind} {name : String} (hpossible : action.isPossible registry)
    (htarget : action.target = (some kind, name)) : action.exportName = Metrics.exportName name := by
  cases action with
  | register family =>
    have hkind : family.content.kind? = some kind := congrArg Prod.fst htarget
    obtain rfl : family.name = name := congrArg Prod.snd htarget
    simp only [isPossible, Family.isDeclared, Family.isWellNamed, hkind, Bool.and_eq_true,
      decide_eq_true_eq] at hpossible
    exact hpossible.1
  | setFlag | setProperty | increment =>
    cases htarget
    rfl

theorem isPossible_restrict (h : registry.Sound) (action : Action) :
    action.isPossible (registry.restrict action.exportName) = action.isPossible registry := by
  cases action with
  | register family => rfl
  | setFlag | setProperty | increment =>
    simp only [isPossible, exportName, Registry.find?_restrict h]

/-- An action needs the part with its exported name only. -/
theorem run_restrict (h : registry.Sound) (hpossible : action.isPossible registry) :
    action.run (registry.restrict action.exportName) =
      ((action.run registry).1, (action.run registry).2.restrict action.exportName) := by
  cases action with
  | register family =>
    simp only [isPossible, Family.isDeclared, Bool.and_eq_true] at hpossible
    simp only [run, exportName, Registry.declare_restrict h hpossible.1]
    cases registry.declare family <;> rfl
  | setFlag name =>
    simp only [run, exportName, Registry.setFlag, Registry.flag?, Registry.find?_restrict h,
      Registry.restrict_modify]
  | setProperty name value =>
    simp only [run, exportName, Registry.setProperty, Registry.find?_restrict h]
    cases registry.find? .property name with
    | none => rfl
    | some family =>
      dsimp only
      split
      · rw [Registry.restrict_modify]
      · rfl
  | increment name amount =>
    simp only [run, exportName, Registry.increment, Registry.restrict_modify]

/-- An action leaves the parts with other exported names. -/
theorem restrict_run_of_ne (h : registry.Sound) (hpossible : action.isPossible registry)
    (hne : action.exportName ≠ e) : (action.run registry).2.restrict e = registry.restrict e := by
  obtain hsame | ⟨family, rfl, hdeclare⟩ | ⟨kind, name, change, htarget, -, hrun⟩ :=
    action.run_cases registry
  · rw [hsame]
  · exact Registry.restrict_declare_of_ne hdeclare hne
  · rw [hrun]
    exact Registry.restrict_modify_of_ne h kind change (exportName_target hpossible htarget ▸ hne)

theorem answer_restrict (h : registry.Sound) (hpossible : action.isPossible registry) :
    action.answer (registry.restrict action.exportName) = action.answer registry := by
  cases action with
  | register family =>
    simp only [isPossible, Family.isDeclared, Bool.and_eq_true] at hpossible
    simp only [answer, exportName, Registry.declare_restrict h hpossible.1]
    cases registry.declare family <;> rfl
  | setFlag | setProperty | increment => simp only [answer, run_restrict h hpossible]

theorem reply_restrict (h : registry.Sound) (hpossible : action.isPossible registry) :
    action.reply (registry.restrict action.exportName) = action.reply registry := by
  unfold reply
  rw [answer_restrict h hpossible, run_restrict h hpossible]
  rcases htarget : action.target with ⟨_ | kind, name⟩
  · rfl
  · -- what the action is about has its exported name
    rw [exportName_target hpossible htarget]
    simp only [Option.bind_some, Registry.find?_restrict (sound_run h hpossible)]

end Action

/-! ## §4 Sequences on a Part -/

namespace Registry

variable {registry : Registry} {e : String}

theorem step_restrict (h : registry.Sound) (action : Action) :
    (registry.restrict action.exportName).step action =
      (registry.step action).restrict action.exportName := by
  rw [step_eq, step_eq, Action.isPossible_restrict h]
  split
  · rename_i hpossible
    rw [Action.run_restrict h hpossible]
  · rfl

theorem restrict_step_of_ne (h : registry.Sound) {action : Action} (hne : action.exportName ≠ e) :
    (registry.step action).restrict e = registry.restrict e := by
  rw [step_eq]
  split
  · rename_i hpossible
    exact Action.restrict_run_of_ne h hpossible hne
  · rfl

theorem reply?_restrict (h : registry.Sound) (action : Action) :
    (registry.restrict action.exportName).reply? action = registry.reply? action := by
  unfold reply?
  rw [Action.isPossible_restrict h]
  split
  · rename_i hpossible
    rw [Action.reply_restrict h hpossible]
  · rfl

/-- A part of the registry goes through the actions with its exported name. -/
theorem restrict_steps (h : registry.Sound) (e : String) (actions : List Action) :
    (registry.steps actions).restrict e =
      (registry.restrict e).steps (actions.filter (·.exportName = e)) := by
  -- the first action is one of the part, or it leaves the part as it is
  induction actions generalizing registry with
  | nil => rfl
  | cons action later ih =>
    rw [steps_cons, ih (h.step action)]
    by_cases hname : action.exportName = e
    · subst hname
      rw [List.filter_cons_of_pos (by simp), steps_cons, step_restrict h]
    · rw [List.filter_cons_of_neg (by simpa using hname), restrict_step_of_ne h hname]

/-- The actions with an exported name are told what they are told without the others. -/
theorem filter_replies (h : registry.Sound) (e : String) (actions : List Action) :
    (registry.replies actions).filter (·.1.exportName = e) =
      (registry.restrict e).replies (actions.filter (·.exportName = e)) := by
  induction actions generalizing registry with
  | nil => rfl
  | cons action later ih =>
    rw [replies]
    by_cases hname : action.exportName = e
    · subst hname
      rw [List.filter_cons_of_pos (by simp), List.filter_cons_of_pos (by simp), replies,
        ih (h.step action), reply?_restrict h, step_restrict h]
    · rw [List.filter_cons_of_neg (by simpa using hname), List.filter_cons_of_neg (by simpa using hname),
        ih (h.step action), restrict_step_of_ne h hname]

/-! ## §5 Views in Another Order -/

variable {before after : Registry}

/-- Lists with the same items are sorted to the same list, where no two items have one key. -/
theorem mergeSort_eq_of_perm {α : Type} {key : α → String} {as bs : List α}
    (hkey : ∀ a ∈ as, ∀ b ∈ as, key a = key b → a = b) (hperm : as.Perm bs) :
    as.mergeSort (fun a b => decide (key a ≤ key b)) =
      bs.mergeSort (fun a b => decide (key a ≤ key b)) := by
  have hsorted : ∀ items : List α, (items.mergeSort fun a b => decide (key a ≤ key b)).Pairwise
      fun a b => decide (key a ≤ key b) := by
    apply List.pairwise_mergeSort
    · intro a b c hab hbc
      exact decide_eq_true (String.le_trans (of_decide_eq_true hab) (of_decide_eq_true hbc))
    · intro a b
      simpa using String.le_total (key a) (key b)
  apply List.Perm.eq_of_pairwise ?_ (hsorted as) (hsorted bs)
  · exact (List.mergeSort_perm _ _).trans (hperm.trans (List.mergeSort_perm _ _).symm)
  · intro a b ha hb hab hba
    have hmem : b ∈ as := hperm.mem_iff.2 (List.mem_mergeSort.1 hb)
    exact hkey a (List.mem_mergeSort.1 ha) b hmem
      (String.le_antisymm (of_decide_eq_true hab) (of_decide_eq_true hba))

/-- The values of a kind are listed in an order that does not depend on the one of the metrics. -/
theorem byName_eq_of_perm (h : before.Sound) (hperm : before.families.Perm after.families) {α : Type}
    {kind : Kind} (make : α → Content) (hkind : ∀ value, (make value).kind? = some kind)
    {listed? : Family → Option (String × α)}
    (hlisted : ∀ family entry, listed? family = some entry ↔
      family.name = entry.1 ∧ family.content = make entry.2) :
    byName (before.families.filterMap listed?) = byName (after.families.filterMap listed?) := by
  apply mergeSort_eq_of_perm ?_ (hperm.filterMap listed?)
  intro a ha b hb hname
  -- what is listed under one name is found under it, and has its value there
  obtain ⟨familyA, hfindA, hcontentA⟩ :=
    (mem_byName_iff h make hkind hlisted).1 (List.mem_mergeSort.2 ha)
  obtain ⟨familyB, hfindB, hcontentB⟩ :=
    (mem_byName_iff h make hkind hlisted).1 (List.mem_mergeSort.2 hb)
  rw [hname, hfindB] at hfindA
  obtain rfl : familyB = familyA := Option.some.inj hfindA
  have hnamed : familyB.name = b.1 := (isNamed_iff.1 (isNamed_of_find? hfindB)).2
  have hlistedA := (hlisted familyB a).2 ⟨hnamed.trans hname.symm, hcontentA⟩
  have hlistedB := (hlisted familyB b).2 ⟨hnamed, hcontentB⟩
  exact Option.some.inj (hlistedA.symm.trans hlistedB)

theorem snapshot_eq_of_perm (h : before.Sound) (hperm : before.families.Perm after.families) :
    before.snapshot = after.snapshot := by
  rw [snapshot_eq, snapshot_eq,
    byName_eq_of_perm h hperm .flag (fun _ => rfl) Family.listedFlag?_eq_some_iff,
    byName_eq_of_perm h hperm .counter (fun _ => rfl) Family.listedCounter?_eq_some_iff,
    byName_eq_of_perm h hperm (fun value => .property (some value)) (fun _ => rfl)
      Family.listedProperty?_eq_some_iff]

/-- Nor does the order of the families in the export. -/
theorem gather_eq_of_perm (h : before.Sound) (hperm : before.families.Perm after.families)
    (htrace : before.trace = after.trace) : before.gather = after.gather := by
  unfold gather
  rw [← htrace]
  apply mergeSort_eq_of_perm ?_ ((hperm.map _).filter _)
  intro a ha b hb hname
  obtain ⟨familyA, hfamilyA, rfl⟩ := List.mem_map.1 (List.mem_filter.1 ha).1
  obtain ⟨familyB, hfamilyB, rfl⟩ := List.mem_map.1 (List.mem_filter.1 hb).1
  rw [h.eq_of_exportName hfamilyA hfamilyB hname]

/-! ## §6 Reordered Sequences and Their Views -/

/-- The metrics after a sequence that was reordered are the same, up to their order. -/
theorem perm_of_isReordering (h : registry.Sound) {actions reordered : List Action}
    (hreordering : IsReordering actions reordered) :
    (registry.steps actions).families.Perm (registry.steps reordered).families := by
  apply perm_of_filter_eq Family.exportName
  intro e
  -- both sequences do the same to the part with one exported name
  have hpart : (registry.steps actions).restrict e = (registry.steps reordered).restrict e := by
    rw [restrict_steps h, restrict_steps h, hreordering e]
  exact congrArg Registry.families hpart

/-- **Actions on metrics with different exported names commute.**  Take the metrics of a process after
    any events, and any sequence of registrations and writes, some of which may fail.  When the sequence
    is reordered, and the actions with one exported name stay in their order, then:

    - the first action with an exported name is told the same in both sequences, and so is the second
      one, and so on: registrations succeed or are refused with the same cause, writes are told the same
      about being the first, and the metric reads the same right afterwards;
    - the snapshot is the same at the end, and so are the gathered families, also in their order;
    - the text of the export is the same. -/
theorem views_of_isReordering (taken : List Net.Endpoint) (events : List ProcessEvent)
    {actions reordered : List Action} (h : IsReordering actions reordered) :
    let registry := reached taken events
    (∀ exportName, (registry.replies actions).filter (·.1.exportName = exportName) =
      (registry.replies reordered).filter (·.1.exportName = exportName)) ∧
    (registry.steps actions).snapshot = (registry.steps reordered).snapshot ∧
    (registry.steps actions).gather = (registry.steps reordered).gather ∧
    (registry.steps actions).encode = (registry.steps reordered).encode := by
  intro registry
  have hsound : registry.Sound := sound_reached taken events
  have hperm := perm_of_isReordering hsound h
  have htrace : (registry.steps actions).trace = (registry.steps reordered).trace := by
    rw [trace_steps, trace_steps]
  have hgather : (registry.steps actions).gather = (registry.steps reordered).gather :=
    gather_eq_of_perm (hsound.steps actions) hperm htrace
  refine ⟨fun e => ?_, snapshot_eq_of_perm (hsound.steps actions) hperm, hgather, ?_⟩
  · -- what an action is told depends on the actions with its exported name only
    rw [filter_replies hsound, filter_replies hsound, h e]
  · rw [encode, encode, hgather]

/-- A counter and a flag in turn, and the same one after the other.  The last registration collides with
    the counter in both sequences. -/
theorem views_of_isReordering_collision :
    let counting : List Action :=
      [.register (.counter "rpc.calls" "calls"), .increment "rpc.calls" 2,
        .register (.counter "rpc-calls" "calls")]
    let setting : List Action := [.register (.flag "ready" "ready"), .setFlag "ready"]
    let actions : List Action :=
      [.register (.counter "rpc.calls" "calls"), .register (.flag "ready" "ready"),
        .increment "rpc.calls" 2, .setFlag "ready", .register (.counter "rpc-calls" "calls")]
    let registry := reached [] []
    IsReordering actions (setting ++ counting) ∧
      (registry.steps actions).snapshot = ⟨[("ready", true)], [("rpc.calls", 2)], []⟩ ∧
      (registry.steps (setting ++ counting)).snapshot = ⟨[("ready", true)], [("rpc.calls", 2)], []⟩ ∧
      (registry.steps actions).encode = (registry.steps (setting ++ counting)).encode := by
  intro counting setting actions registry
  have hreordering : IsReordering actions (setting ++ counting) := by decide
  have hsnapshot : (registry.steps actions).snapshot =
      ⟨[("ready", true)], [("rpc.calls", 2)], []⟩ := by decide +kernel
  obtain ⟨-, hsame, -, hencode⟩ := views_of_isReordering [] [] hreordering
  exact ⟨hreordering, hsnapshot, hsame ▸ hsnapshot, hencode⟩

end Registry

end RoleDaemon.Metrics

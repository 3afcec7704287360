import RoleDaemon.Proofs.Metrics.Enrolment

/-!
# Refused Registrations

A metric is refused when another one has its exported name.  Nothing is removed from a registry, so that
the name stays taken, and the metric is refused forever.

## Architecture

- `Registry.blocks`: the exported name of the metric is taken by another one
- `Registry.blocks_run`: no action changes that
- `Registry.identity_mem_of_ok`: a series of the trace that was enrolled is there
- `Registry.exists_blocks_of_error`, `Registry.blocks_of_ok`: what is blocked after enrolling failed, and
  after it succeeded

Main statements:
- `Registry.enroll_of_blocks`: whoever enrols a metric that is blocked fails
- `Registry.exists_blocks_enroll`: metrics that include a series of the trace are enrolled at most once
-/

namespace RoleDaemon.Metrics

theorem Family.isWellNamed_of_isDeclared {family : Family} (h : family.isDeclared) :
    family.isWellNamed := by
  simp only [isDeclared, Bool.and_eq_true] at h
  exact h.1

namespace Registry

/-- The metric is not in the registry, and another one has its exported name. -/
def blocks (registry : Registry) (family : Family) : Bool :=
  !registry.holds family && registry.isTaken family.exportName

variable {registry before after : Registry} {family : Family}

/-! ## §1 Single Registrations -/

theorem declare_of_blocks (h : registry.blocks family) :
    ∃ cause, registry.declare family = .error cause := by
  simp only [blocks, Bool.and_eq_true, Bool.not_eq_true'] at h
  obtain ⟨hholds, htaken⟩ := h
  cases hfault : descriptionFault? family with
  | some fault => simp [declare, hholds, hfault]
  | none => simp [declare, hholds, hfault, htaken]

/-- A metric with an acceptable description is only refused for its name. -/
theorem blocks_of_declare (hdescribed : descriptionFault? family = none) {cause : Cause}
    (h : registry.declare family = .error cause) : registry.blocks family := by
  unfold declare at h
  by_cases hholds : registry.holds family
  · rw [if_pos hholds] at h
    cases h
  · by_cases htaken : registry.isTaken family.exportName
    · simp [blocks, hholds, htaken]
    · rw [if_neg hholds, hdescribed] at h
      simp only [if_neg htaken] at h
      cases h

/-- The series of the trace are not found by name: once they are registered, they are blocked. -/
theorem blocks_of_kind?_eq_none (hkind : family.content.kind? = none)
    (htaken : registry.isTaken family.exportName) : registry.blocks family := by
  simp [blocks, holds, hkind, htaken]

/-! ## §2 Blocked Forever -/

/-- A name that is taken stays taken, where no metric is removed. -/
theorem isTaken_of_prefix {exportName : String}
    (hkept : before.families.map Family.identity <+: after.families.map Family.identity)
    (h : before.isTaken exportName) : after.isTaken exportName := by
  obtain ⟨family, hfamily, hname⟩ := isTaken_iff.1 h
  obtain ⟨other, hother, hidentity⟩ := List.mem_map.1
    (hkept.subset (List.mem_map_of_mem (f := Family.identity) hfamily))
  have hsame : other.exportName = family.exportName := congrArg (·.2.1) hidentity
  exact isTaken_iff.2 ⟨other, hother, hsame.trans hname⟩

/-- A blocked metric is not registered by any action: the exported name of a metric that is registered
    comes from its own name, and was free. -/
theorem blocks_run (hwell : family.isWellNamed) (h : registry.blocks family) (action : Action)
    (hdeclared : ∀ other, action = .register other → other.isDeclared) :
    (action.run registry).2.blocks family := by
  simp only [blocks, Bool.and_eq_true, Bool.not_eq_true'] at h
  obtain ⟨hholds, htaken⟩ := h
  have htaken' := isTaken_of_prefix (action.prefix_identity_run registry) htaken
  cases hkind : family.content.kind? with
  | none => exact blocks_of_kind?_eq_none hkind htaken'
  | some kind =>
    have hnone : registry.find? kind family.name = none := by
      simpa [holds, hkind] using hholds
    have hstill : (action.run registry).2.find? kind family.name = none := by
      obtain hsame | ⟨other, rfl, hdeclare⟩ | ⟨kind', name, change, -, hchange, hrun⟩ :=
        action.run_cases registry
      · rw [hsame, hnone]
      · rw [find?_declare hdeclare, hnone, Option.none_or, if_neg]
        intro hnamed
        obtain ⟨hother, hname⟩ := isNamed_iff.1 hnamed
        have hexport : other.exportName = family.exportName := by
          have hown := congrArg Family.exportName (Family.eq_family (hdeclared other rfl) hnamed)
          simp only [Family.isWellNamed, hkind, decide_eq_true_eq] at hwell
          exact hown.trans hwell.symm
        obtain ⟨hheld, -⟩ | ⟨-, hfree, -⟩ := declare_ok_cases hdeclare
        · simp [holds, hother, hname, hnone] at hheld
        · exact hfree (hexport ▸ htaken)
      · rw [hrun, find?_modify registry kind kind' family.name name hchange, hnone]
        rfl
    simp [blocks, holds, hkind, hstill, htaken']

theorem blocks_enrollOne {enrolment : Enrolment} (hdeclared : enrolment.family.isDeclared)
    (henroll : before.enrollOne enrolment = .ok after) (hwell : family.isWellNamed)
    (h : before.blocks family) : after.blocks family := by
  obtain ⟨registered, hdeclare, hvalue⟩ := enrollOne_cases henroll
  have hregistered : registered.blocks family := by
    have hrun := blocks_run hwell h (.register enrolment.family) fun other heq => by
      cases heq
      exact hdeclared
    rwa [Action.run, hdeclare] at hrun
  obtain rfl | ⟨value, rfl⟩ := hvalue
  · exact hregistered
  · exact blocks_run hwell hregistered (.setProperty enrolment.family.name value) (by simp)

/-! ## §3 Enrolling Again -/

variable {enrolments : List Enrolment}

theorem enroll_of_blocks (hdeclared : ∀ enrolment ∈ enrolments, enrolment.family.isDeclared)
    {enrolment : Enrolment} (hmem : enrolment ∈ enrolments)
    (h : registry.blocks enrolment.family) :
    ∃ cause, (enroll enrolments registry).2 = .error cause := by
  induction enrolments generalizing registry with
  | nil => cases hmem
  | cons first rest ih =>
    obtain ⟨hfirst, hrest⟩ := List.forall_mem_cons.1 hdeclared
    unfold enroll
    cases henroll : registry.enrollOne first with
    | error cause => exact ⟨cause, rfl⟩
    | ok enrolled =>
      rcases List.mem_cons.1 hmem with rfl | hmem
      · -- a blocked metric was not registered
        obtain ⟨cause, hrefused⟩ := declare_of_blocks h
        obtain ⟨registered, hdeclare, -⟩ := enrollOne_cases henroll
        rw [hrefused] at hdeclare
        cases hdeclare
      · have hwell := Family.isWellNamed_of_isDeclared (hrest enrolment hmem)
        exact ih hrest hmem (blocks_enrollOne hfirst henroll hwell h)

/-- Enrolling stops at a metric that is blocked. -/
theorem exists_blocks_of_error
    (hdescribed : ∀ enrolment ∈ enrolments, descriptionFault? enrolment.family = none)
    {cause : Cause} (h : enroll enrolments registry = (after, .error cause)) :
    ∃ enrolment ∈ enrolments, after.blocks enrolment.family := by
  induction enrolments generalizing registry with
  | nil => cases h
  | cons first rest ih =>
    obtain ⟨hfirst, hrest⟩ := List.forall_mem_cons.1 hdescribed
    unfold enroll at h
    cases henroll : registry.enrollOne first with
    | error refusal =>
      rw [henroll] at h
      cases h
      refine ⟨first, List.mem_cons_self .., ?_⟩
      cases hdeclare : after.declare first.family with
      | error refusal => exact blocks_of_declare hfirst hdeclare
      | ok registered => simp [enrollOne, hdeclare, Except.map] at henroll
    | ok enrolled =>
      rw [henroll] at h
      obtain ⟨enrolment, hmem, hblocked⟩ := ih hrest h
      exact ⟨enrolment, List.mem_cons_of_mem _ hmem, hblocked⟩

/-- A series of the trace that was enrolled is in the registry. -/
theorem identity_mem_of_ok (hdeclared : ∀ enrolment ∈ enrolments, enrolment.family.isDeclared)
    (h : enroll enrolments registry = (after, .ok ())) {enrolment : Enrolment}
    (hmem : enrolment ∈ enrolments) (hkind : enrolment.family.content.kind? = none) :
    enrolment.family.identity ∈ after.families.map Family.identity := by
  induction enrolments generalizing registry with
  | nil => cases hmem
  | cons first rest ih =>
    obtain ⟨hfirst, hrest⟩ := List.forall_mem_cons.1 hdeclared
    unfold enroll at h
    cases henroll : registry.enrollOne first with
    | error cause =>
      rw [henroll] at h
      cases h
    | ok enrolled =>
      simp only [henroll] at h
      rcases List.mem_cons.1 hmem with rfl | hmem
      · -- the series was added just now, and what follows does not remove it
        obtain ⟨registered, hdeclare, hvalue⟩ := enrollOne_cases henroll
        have hregistered : enrolment.family.identity ∈ registered.families.map Family.identity := by
          obtain ⟨hholds, -⟩ | ⟨-, -, rfl⟩ := declare_ok_cases hdeclare
          · simp [holds, hkind] at hholds
          · simp
        have henrolled : enrolment.family.identity ∈ enrolled.families.map Family.identity := by
          obtain rfl | ⟨value, rfl⟩ := hvalue
          · exact hregistered
          · exact ((Action.setProperty _ value).prefix_identity_run registered).subset hregistered
        have hextended := ExtendedBy.enroll hrest enrolled
        rw [h] at hextended
        exact hextended.kept.subset henrolled
      · exact ih hrest h hmem

/-- A series of the trace that was enrolled is blocked from then on. -/
theorem blocks_of_ok (hdeclared : ∀ enrolment ∈ enrolments, enrolment.family.isDeclared)
    (h : enroll enrolments registry = (after, .ok ())) {enrolment : Enrolment}
    (hmem : enrolment ∈ enrolments) (hkind : enrolment.family.content.kind? = none) :
    after.blocks enrolment.family := by
  apply blocks_of_kind?_eq_none hkind
  obtain ⟨family, hfamily, hidentity⟩ :=
    List.mem_map.1 (identity_mem_of_ok hdeclared h hmem hkind)
  have hname : family.exportName = enrolment.family.exportName := congrArg (·.2.1) hidentity
  exact isTaken_iff.2 ⟨family, hfamily, hname⟩

/-- Whether enrolling failed or succeeded, some of the metrics is blocked afterwards, provided that a
    series of the trace is among them. -/
theorem exists_blocks_enroll (hdeclared : ∀ enrolment ∈ enrolments, enrolment.family.isDeclared)
    (hdescribed : ∀ enrolment ∈ enrolments, descriptionFault? enrolment.family = none)
    (hseries : ∃ enrolment ∈ enrolments, enrolment.family.content.kind? = none)
    (registry : Registry) :
    ∃ enrolment ∈ enrolments, (enroll enrolments registry).1.blocks enrolment.family := by
  rcases henroll : enroll enrolments registry with ⟨after, cause | _⟩
  · exact exists_blocks_of_error hdescribed henroll
  · obtain ⟨enrolment, hmem, hkind⟩ := hseries
    exact ⟨enrolment, hmem, blocks_of_ok hdeclared henroll hmem hkind⟩

end Registry

end RoleDaemon.Metrics

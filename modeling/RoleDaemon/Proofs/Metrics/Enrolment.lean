import RoleDaemon.Proofs.Metrics.Book

/-!
# Enrolling Metrics

The parts of the daemon enrol their metrics one after another, up to the first one that fails.  Enrolling
is a list of registrations and writes, so that what holds of these holds of it.

Main statements:
- `Registry.registry_enrolActions`: enrolling has the effect of a list of actions
- `Registry.find?_enroll`, `Registry.trace_enroll`: what is found after enrolling, and what stays
- `Registry.ExtendedBy.enroll`: what enrolling leaves, whether it succeeds or fails
-/

namespace RoleDaemon.Metrics.Registry

/-! ## §1 Enrolling as a List of Actions -/

/-- What enrolling does: registrations up to the first one that fails, each with the write of the value
    that belongs to it. -/
def enrolActions : List Enrolment → Registry → List Action
  | [], _ => []
  | enrolment :: rest, registry =>
    .register enrolment.family ::
      match registry.enrollOne enrolment with
      | .ok registry =>
        (enrolment.value?.map (.setProperty enrolment.family.name)).toList ++
          enrolActions rest registry
      | .error _ => []

theorem registry_enrolActions {enrolments : List Enrolment}
    (hdeclared : ∀ enrolment ∈ enrolments, enrolment.family.isDeclared) (book : Book) :
    (book.acts (enrolActions enrolments book.registry)).registry =
      (enroll enrolments book.registry).1 := by
  induction enrolments generalizing book with
  | nil => rfl
  | cons enrolment rest ih =>
    obtain ⟨hfirst, hrest⟩ := List.forall_mem_cons.1 hdeclared
    have hregister : (book.act (.register enrolment.family)).registry =
        ((Action.register enrolment.family).run book.registry).2 :=
      book.registry_act _ fun family heq => by cases heq; exact hfirst
    rw [enrolActions, enroll, Book.acts, List.foldl_cons, enrollOne]
    rw [Action.run] at hregister
    cases hdeclare : book.registry.declare enrolment.family with
    | error cause =>
      rw [hdeclare] at hregister
      exact hregister
    | ok declared =>
      replace hregister : (book.act (.register enrolment.family)).registry = declared := by
        rw [hregister, hdeclare]
      -- the rest is enrolled into what the registration, and the write where there is one, lead to
      cases hvalue : enrolment.value? with
      | none =>
        simp only [Except.map, Option.map_none, Option.toList_none, List.nil_append]
        rw [← hregister]
        exact ih hrest _
      | some value =>
        have hwrite := (book.act (.register enrolment.family)).registry_act
          (.setProperty enrolment.family.name value) (by simp)
        simp only [Except.map, Option.map_some, Option.toList_some, List.cons_append,
          List.nil_append, List.foldl_cons, ← hregister]
        rw [Action.run] at hwrite
        rw [← hwrite]
        exact ih hrest _

/-! ## §2 What Enrolling Changes -/

/-- Enrolling a metric registers it, and may write a property. -/
theorem enrollOne_cases {registry registry' : Registry} {enrolment : Enrolment}
    (h : registry.enrollOne enrolment = .ok registry') :
    ∃ declared, registry.declare enrolment.family = .ok declared ∧
      (registry' = declared ∨
        ∃ value, registry' = (declared.setProperty enrolment.family.name value).2) := by
  unfold enrollOne at h
  cases hdeclare : registry.declare enrolment.family with
  | error cause =>
    rw [hdeclare] at h
    cases h
  | ok declared =>
    rw [hdeclare] at h
    refine ⟨declared, rfl, ?_⟩
    cases hvalue : enrolment.value? with
    | none =>
      simp only [hvalue, Except.map, Except.ok.injEq] at h
      exact .inl h.symm
    | some value =>
      simp only [hvalue, Except.map, Except.ok.injEq] at h
      exact .inr ⟨value, h.symm⟩

/-- After metrics were enrolled, a flag or a counter is found where it was, or among them. -/
theorem find?_enroll {enrolments : List Enrolment} {registry registry' : Registry}
    (h : enroll enrolments registry = (registry', .ok ())) {kind : Kind} (hkind : kind ≠ .property)
    (name : String) :
    registry'.find? kind name = (registry.find? kind name).or
      ((enrolments.map (·.family)).find? (Family.isNamed kind name)) := by
  induction enrolments generalizing registry with
  | nil =>
    cases h
    simp
  | cons enrolment rest ih =>
    unfold enroll at h
    cases hfirst : registry.enrollOne enrolment with
    | error cause =>
      rw [hfirst] at h
      cases h
    | ok enrolled =>
      rw [hfirst] at h
      obtain ⟨declared, hdeclare, hvalue⟩ := enrollOne_cases hfirst
      -- only properties are given a value
      have hset : enrolled.find? kind name = declared.find? kind name := by
        obtain rfl | ⟨value, rfl⟩ := hvalue
        · rfl
        · apply (Action.setProperty enrolment.family.name value).find?_run declared
          rintro ⟨⟩
          exact hkind rfl
      rw [ih h, hset, find?_declare hdeclare, List.map_cons, List.find?_cons, Option.or_assoc]
      cases enrolment.family.isNamed kind name <;> simp

/-- The trace of the calls is no part of it. -/
theorem trace_enroll (enrolments : List Enrolment) (registry : Registry) :
    (enroll enrolments registry).1.trace = registry.trace := by
  induction enrolments generalizing registry with
  | nil => rfl
  | cons enrolment rest ih =>
    unfold enroll
    cases hfirst : registry.enrollOne enrolment with
    | error cause => rfl
    | ok enrolled =>
      obtain ⟨declared, hdeclare, hvalue⟩ := enrollOne_cases hfirst
      have hdeclared : declared.trace = registry.trace := by
        have hrun := (Action.register enrolment.family).trace_run registry
        rwa [Action.run, hdeclare] at hrun
      refine (ih enrolled).trans ?_
      obtain rfl | ⟨value, rfl⟩ := hvalue
      · exact hdeclared
      · exact ((Action.setProperty enrolment.family.name value).trace_run declared).trans hdeclared

/-! ## §3 What Enrolling Leaves -/

/-- The registry came about from another one by enrolling some of the given metrics.  All metrics that
    were there still are, with the same help texts and in the same order.  They read what they read
    before, except that a property without a value may have got the one that belongs to it, and what is
    found in addition is one of the given metrics, as it was given. -/
structure ExtendedBy (enrolments : List Enrolment) (before after : Registry) : Prop where
  trace : after.trace = before.trace
  kept : before.families.map Family.identity <+: after.families.map Family.identity
  found : ∀ kind name, kind ≠ .property → after.find? kind name = before.find? kind name ∨
    before.find? kind name = none ∧
      ∃ enrolment ∈ enrolments, after.find? kind name = some enrolment.family
  valued : ∀ name, after.property? name = before.property? name ∨
    before.property? name = none ∧ ∃ enrolment ∈ enrolments, enrolment.family.name = name ∧
      enrolment.value?.isSome ∧ after.property? name = enrolment.value?

/-- Writing a property is seen at the property, and only when it had no value. -/
theorem property?_setProperty (registry : Registry) (name value other : String) :
    (registry.setProperty name value).2.property? other = registry.property? other ∨
    other = name ∧ registry.property? other = none ∧
      (registry.setProperty name value).2.property? other = some value := by
  obtain ⟨⟨family, hfind, hblank⟩, hset⟩ | ⟨-, hset⟩ :=
    Action.setProperty_cases registry name value
  · rw [hset]
    by_cases hname : other = name
    · subst hname
      refine .inr ⟨rfl, by simp [property?, hfind, hblank], ?_⟩
      rw [property?, find?_modify_self hfind (Action.keepsKind_setProperty value)]
      rfl
    · left
      rw [property?, property?, find?_modify_of_ne registry (Action.keepsKind_setProperty value)
        fun heq => hname (congrArg Prod.snd heq)]
  · rw [hset]
    exact .inl rfl

/-- A metric that was just registered has no value. -/
theorem property?_declare {registry registry' : Registry} {family : Family}
    (hdeclared : family.isDeclared) (h : registry.declare family = .ok registry') (name : String) :
    registry'.property? name = registry.property? name := by
  rw [property?, property?, find?_declare h]
  cases hfind : registry.find? .property name with
  | some found => rfl
  | none =>
    by_cases hnamed : family.isNamed .property name
    · rw [Family.eq_family hdeclared hnamed, Option.none_or, if_pos (by simp)]
      rfl
    · rw [if_neg hnamed]
      rfl

namespace ExtendedBy

variable {enrolments : List Enrolment} {registry before between after : Registry}

theorem refl (enrolments : List Enrolment) (registry : Registry) :
    ExtendedBy enrolments registry registry :=
  ⟨rfl, List.prefix_rfl, fun _ _ _ => .inl rfl, fun _ => .inl rfl⟩

/-- Enrolling one metric, and then some of the others. -/
theorem cons {enrolment : Enrolment} {rest : List Enrolment}
    (hfirst : ExtendedBy [enrolment] before between) (hrest : ExtendedBy rest between after) :
    ExtendedBy (enrolment :: rest) before after := by
  refine ⟨hrest.trace.trans hfirst.trace, hfirst.kept.trans hrest.kept, fun kind name hkind => ?_,
    fun name => ?_⟩
  · obtain hsame | ⟨hnone, added, hadded, hfound⟩ := hrest.found kind name hkind
    · rw [hsame]
      obtain hsame | ⟨hnone, added, hadded, hfound⟩ := hfirst.found kind name hkind
      · exact .inl hsame
      · exact .inr ⟨hnone, added, List.mem_cons.2 (.inl (List.mem_singleton.1 hadded)), hfound⟩
    · -- what was not found in between was not found before
      obtain hsame | ⟨-, other, -, hother⟩ := hfirst.found kind name hkind
      · exact .inr ⟨hsame ▸ hnone, added, List.mem_cons_of_mem _ hadded, hfound⟩
      · rw [hnone] at hother
        cases hother
  · obtain hsame | ⟨hnone, added, hadded, hname, hsome, hvalue⟩ := hrest.valued name
    · rw [hsame]
      obtain hsame | ⟨hnone, added, hadded, hname, hsome, hvalue⟩ := hfirst.valued name
      · exact .inl hsame
      · exact .inr ⟨hnone, added, List.mem_cons.2 (.inl (List.mem_singleton.1 hadded)), hname, hsome,
          hvalue⟩
    · obtain hsame | ⟨-, other, -, -, hsome', hother⟩ := hfirst.valued name
      · exact .inr ⟨hsame ▸ hnone, added, List.mem_cons_of_mem _ hadded, hname, hsome, hvalue⟩
      · rw [← hother, hnone] at hsome'
        cases hsome'

theorem declare {family : Family} {value? : Option String} (hdeclared : family.isDeclared)
    (h : registry.declare family = .ok after) : ExtendedBy [⟨family, value?⟩] registry after := by
  have hrun : ((Action.register family).run registry).2 = after := by rw [Action.run, h]
  refine ⟨?_, prefix_identity_declare h, fun kind name _ => ?_,
    fun name => .inl (property?_declare hdeclared h name)⟩
  · rw [← hrun, Action.trace_run]
  · rw [find?_declare h]
    cases hfind : registry.find? kind name with
    | some found => exact .inl rfl
    | none =>
      by_cases hnamed : family.isNamed kind name
      · exact .inr ⟨rfl, _, List.mem_singleton_self _, by simp [hnamed]⟩
      · exact .inl (by simp [hnamed])

/-- The property that belongs to an enrolment is written after its registration. -/
theorem setProperty {enrolment : Enrolment} {value : String}
    (h : ExtendedBy [enrolment] before between) (hvalue : enrolment.value? = some value) :
    ExtendedBy [enrolment] before (between.setProperty enrolment.family.name value).2 := by
  let action : Action := .setProperty enrolment.family.name value
  refine ⟨(action.trace_run between).trans h.trace, h.kept.trans (action.prefix_identity_run between),
    fun kind name hkind => ?_, fun name => ?_⟩
  · have hsame : (between.setProperty enrolment.family.name value).2.find? kind name =
        between.find? kind name := by
      apply action.find?_run between
      rintro ⟨⟩
      exact hkind rfl
    rw [hsame]
    exact h.found kind name hkind
  · obtain hsame | ⟨rfl, hnone, hwritten⟩ :=
      between.property?_setProperty enrolment.family.name value name
    · rw [hsame]
      exact h.valued name
    · -- the property had no value in between, so it had none before
      obtain hsame | ⟨-, other, -, -, hsome, hother⟩ := h.valued enrolment.family.name
      · exact .inr ⟨hsame ▸ hnone, enrolment, List.mem_singleton_self _, rfl, by simp [hvalue],
          hwritten.trans hvalue.symm⟩
      · rw [← hother, hnone] at hsome
        cases hsome

theorem enrollOne {enrolment : Enrolment} (hdeclared : enrolment.family.isDeclared)
    (h : registry.enrollOne enrolment = .ok after) : ExtendedBy [enrolment] registry after := by
  unfold Registry.enrollOne at h
  cases hdeclare : registry.declare enrolment.family with
  | error cause =>
    rw [hdeclare] at h
    cases h
  | ok registered =>
    rw [hdeclare] at h
    have hregistered : ExtendedBy [enrolment] registry registered := declare hdeclared hdeclare
    cases hvalue : enrolment.value? with
    | none =>
      simp only [hvalue, Except.map, Except.ok.injEq] at h
      exact h ▸ hregistered
    | some value =>
      simp only [hvalue, Except.map, Except.ok.injEq] at h
      exact h ▸ hregistered.setProperty hvalue

/-- Enrolling extends a registry, whether it succeeds or fails. -/
theorem enroll (hdeclared : ∀ enrolment ∈ enrolments, enrolment.family.isDeclared)
    (registry : Registry) : ExtendedBy enrolments registry (enroll enrolments registry).1 := by
  induction enrolments generalizing registry with
  | nil => exact refl [] registry
  | cons enrolment rest ih =>
    obtain ⟨hfirst, hrest⟩ := List.forall_mem_cons.1 hdeclared
    unfold Registry.enroll
    cases henroll : registry.enrollOne enrolment with
    | error cause => exact refl _ registry
    | ok enrolled => exact (enrollOne hfirst henroll).cons (ih hrest enrolled)

end ExtendedBy

end RoleDaemon.Metrics.Registry

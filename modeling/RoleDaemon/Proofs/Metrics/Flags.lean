import RoleDaemon.Metrics.Registry

/-!
# Flags under the Operations of the Registry

A flag that is registered reads the same after every operation of the registry but one: setting it.

Main statements:
- `Registry.find?_modify`: looking up a metric after the content of some metric was changed
- `Registry.KeepsFlags`: every registered flag reads as before
- `Registry.keepsFlags_enroll`, `Registry.keepsFlags_increment`: registration and counting keep the flags
- `Registry.flag?_setFlag`: what a flag reads after one was set
-/

namespace RoleDaemon.Metrics.Registry

/-! ## §1 Looking up after a Change -/

/-- A change that turns contents of a kind into contents of the same kind. -/
def KeepsKind (kind : Kind) (change : Content → Content) : Prop :=
  ∀ content, content.kind? = some kind → (change content).kind? = some kind

theorem isNamed_iff {kind : Kind} {name : String} {family : Family} :
    family.isNamed kind name ↔ family.content.kind? = some kind ∧ family.name = name := by
  simp [Family.isNamed]

/-- Metrics are found under the same kinds and names after a change that keeps the kind. -/
theorem find?_modify (registry : Registry) (kind kind' : Kind) (name name' : String)
    {change : Content → Content} (hchange : KeepsKind kind' change) :
    (registry.modify kind' name' change).find? kind name =
      (registry.find? kind name).map fun family =>
        if family.isNamed kind' name' then { family with content := change family.content }
        else family := by
  have hnamed : (Family.isNamed kind name ∘ fun family : Family =>
      if family.isNamed kind' name' then { family with content := change family.content }
      else family) = Family.isNamed kind name := by
    funext family
    simp only [Function.comp_apply]
    split
    · rename_i h
      have hkind := (isNamed_iff.1 h).1
      simp only [Family.isNamed, hchange family.content hkind, hkind]
    · rfl
  simp only [find?, modify, List.find?_map, hnamed]

/-- What is found under a kind and a name has them. -/
theorem isNamed_of_find? {registry : Registry} {kind : Kind} {name : String} {family : Family}
    (h : registry.find? kind name = some family) : family.isNamed kind name :=
  List.find?_some h

/-- A change of another metric is not seen. -/
theorem find?_modify_of_ne (registry : Registry) {kind kind' : Kind} {name name' : String}
    {change : Content → Content} (hchange : KeepsKind kind' change)
    (hne : (kind, name) ≠ (kind', name')) :
    (registry.modify kind' name' change).find? kind name = registry.find? kind name := by
  rw [find?_modify registry kind kind' name name' hchange]
  cases hfind : registry.find? kind name with
  | none => rfl
  | some family =>
    obtain ⟨hkind, hname⟩ := isNamed_iff.1 (isNamed_of_find? hfind)
    have hother : ¬ family.isNamed kind' name' := by
      intro h
      obtain ⟨hkind', hname'⟩ := isNamed_iff.1 h
      rw [hkind] at hkind'
      exact hne (Prod.ext (Option.some.inj hkind') (hname.symm.trans hname'))
    simp [hother]

/-! ## §2 Operations That Keep the Flags -/

/-- Every flag that is registered before reads the same after. -/
def KeepsFlags (before after : Registry) : Prop :=
  ∀ name isSet, before.flag? name = some isSet → after.flag? name = some isSet

theorem KeepsFlags.refl (registry : Registry) : KeepsFlags registry registry :=
  fun _ _ h => h

theorem KeepsFlags.trans {a b c : Registry} (hab : KeepsFlags a b) (hbc : KeepsFlags b c) :
    KeepsFlags a c :=
  fun name isSet h => hbc name isSet (hab name isSet h)

/-- Changing metrics of another kind keeps the flags. -/
theorem keepsFlags_modify (registry : Registry) {kind : Kind} (hkind : kind ≠ .flag) (name : String)
    {change : Content → Content} (hchange : KeepsKind kind change) :
    KeepsFlags registry (registry.modify kind name change) := by
  intro flag isSet h
  have hne : (Kind.flag, flag) ≠ (kind, name) := fun h => hkind (congrArg Prod.fst h).symm
  rw [flag?, find?_modify_of_ne registry hchange hne]
  exact h

theorem keepsFlags_increment (registry : Registry) (name : String) (amount : UInt64) :
    KeepsFlags registry (registry.increment name amount) := by
  apply keepsFlags_modify registry (by decide)
  intro content hkind
  cases content <;> first | rfl | exact hkind

theorem keepsFlags_setProperty (registry : Registry) (name value : String) :
    KeepsFlags registry (registry.setProperty name value).2 := by
  unfold setProperty
  split
  · split
    · exact keepsFlags_modify registry (by decide) name fun _ _ => rfl
    · exact KeepsFlags.refl registry
  · exact KeepsFlags.refl registry

theorem keepsFlags_declare {registry registry' : Registry} {family : Family}
    (h : registry.declare family = .ok registry') : KeepsFlags registry registry' := by
  unfold declare at h
  split at h
  · cases h
    exact KeepsFlags.refl registry
  · split at h
    · cases h
    · split at h
      · cases h
      · cases h
        intro name isSet hflag
        -- a new family stands behind all others, and the first one counts
        obtain ⟨found, hfound, hcontent⟩ := Option.bind_eq_some_iff.1 hflag
        have hfound' : (registry.families ++ [family]).find? (Family.isNamed .flag name) =
            some found := by
          rw [List.find?_append, show registry.families.find? _ = some found from hfound]
          rfl
        simp only [flag?, find?, hfound']
        exact hcontent

theorem keepsFlags_enrollOne {registry registry' : Registry} {enrolment : Enrolment}
    (h : registry.enrollOne enrolment = .ok registry') : KeepsFlags registry registry' := by
  unfold enrollOne at h
  cases hdeclare : registry.declare enrolment.family with
  | error cause => rw [hdeclare] at h; cases h
  | ok declared =>
    rw [hdeclare] at h
    simp only [Except.map, Except.ok.injEq] at h
    subst h
    have hkept := keepsFlags_declare hdeclare
    split
    · exact hkept.trans (keepsFlags_setProperty declared _ _)
    · exact hkept

/-- Registration keeps the flags, whether it succeeds or fails. -/
theorem keepsFlags_enroll (enrolments : List Enrolment) (registry : Registry) :
    KeepsFlags registry (enroll enrolments registry).1 := by
  induction enrolments generalizing registry with
  | nil => exact KeepsFlags.refl registry
  | cons enrolment rest ih =>
    unfold enroll
    split
    · rename_i registry' henroll
      exact (keepsFlags_enrollOne henroll).trans (ih registry')
    · exact KeepsFlags.refl registry

/-! ## §3 Setting a Flag -/

/-- A flag that was set reads true, and every other flag reads as before. -/
theorem flag?_setFlag (registry : Registry) (name name' : String) :
    (registry.setFlag name').2.flag? name =
      if name = name' then (registry.flag? name).map fun _ => true else registry.flag? name := by
  have hkind : KeepsKind .flag fun _ => .flag true := fun _ _ => rfl
  by_cases hname : name = name'
  · subst hname
    rw [if_pos rfl, setFlag, flag?, flag?, find?_modify registry .flag .flag name name hkind]
    cases hfind : registry.find? .flag name with
    | none => rfl
    | some family =>
      have hnamed := isNamed_of_find? hfind
      cases hcontent : family.content with
      | flag isSet => simp [hnamed, hcontent]
      | _ => simp [Family.isNamed, hcontent, Content.kind?] at hnamed
  · have hne : (Kind.flag, name) ≠ (Kind.flag, name') := fun h => hname (congrArg Prod.snd h)
    rw [if_neg hname]
    simp only [setFlag, flag?, find?_modify_of_ne registry hkind hne]

end RoleDaemon.Metrics.Registry

import Mathlib.Data.List.Infix
import Mathlib.Data.UInt
import RoleDaemon.Proofs.Metrics.Registration

/-!
# Registries and What Was Done to Them

A registry is changed by registrations and by writes through the metrics that were registered.  A book
keeps a registry together with the entries of all that was done to it, each with its answer.  The
registry reads what the entries say.

## Architecture

- `Action`: a registration or a write, which takes a metric that was registered before
- `Book.act`: does an action, and enters it with its answer
- `Book.Balanced`: what is found in the registry is computed from the entries alone
- `Book.Balanced.act`: one action keeps this, and so does any number of them by `Book.acts_keep`

Main statements:
- `Book.Balanced.flag?`, `Book.Balanced.property?`, `Book.Balanced.counter?`: what the metrics read
- `Action.find?_run`: an action changes the metric that it is about, and no other
-/

namespace RoleDaemon.Metrics

/-! ## §1 Actions -/

/-- What can be done with the metrics of a process.  The writes go through a metric that was registered
    under the name. -/
inductive Action where
  | register (family : Family)
  | setFlag (name : String)
  | setProperty (name value : String)
  | increment (name : String) (amount : UInt64)
  deriving DecidableEq, Repr

namespace Action

/-- The metric that an action is about. -/
def target : Action → Option Kind × String
  | register family => (family.content.kind?, family.name)
  | setFlag name => (some .flag, name)
  | setProperty name _ => (some .property, name)
  | increment name _ => (some .counter, name)

/-- Only blank metrics and the series of the trace are registered, and only metrics that were
    registered are written. -/
def isPossible (registry : Registry) : Action → Bool
  | register family => family.isDeclared
  | setFlag name => (registry.find? .flag name).isSome
  | setProperty name _ => (registry.find? .property name).isSome
  | increment name _ => (registry.find? .counter name).isSome

/-- The answer to an action, and the registry after it.  A registration tells whether it succeeded, and
    a write whether it was the first one, where this is told. -/
def run (registry : Registry) : Action → Bool × Registry
  | register family =>
    match registry.declare family with
    | .ok registry => (true, registry)
    | .error _ => (false, registry)
  | setFlag name => registry.setFlag name
  | setProperty name value => registry.setProperty name value
  | increment name amount => (true, registry.increment name amount)

end Action

/-- An action that was done, with its answer. -/
structure Entry where
  action : Action
  answer : Bool
  deriving DecidableEq, Repr

/-- A registry, and all that was done to it, the first action first. -/
structure Book where
  registry : Registry
  entries : List Entry

namespace Book

/-- The book of a new registry. -/
def empty : Book := ⟨.empty, []⟩

/-- Does an action, where it is possible. -/
def act (book : Book) (action : Action) : Book :=
  if action.isPossible book.registry then
    ⟨(action.run book.registry).2, book.entries ++ [⟨action, (action.run book.registry).1⟩]⟩
  else book

def acts (book : Book) (actions : List Action) : Book :=
  actions.foldl act book

end Book

/-! ## §2 What the Entries Say -/

/-- The help text with which the metric was registered, when the entry is a registration of it that
    succeeded. -/
def Entry.helpFor? (kind : Kind) (name : String) : Entry → Option String
  | ⟨.register family, true⟩ => if family.isNamed kind name then some family.help else none
  | _ => none

def Entry.flagAnswer? (name : String) : Entry → Option Bool
  | ⟨.setFlag flag, answer⟩ => if flag = name then some answer else none
  | _ => none

def Entry.propertySet? (name : String) : Entry → Option (String × Bool)
  | ⟨.setProperty property value, answer⟩ => if property = name then some (value, answer) else none
  | _ => none

def Entry.amount? (name : String) : Entry → Option UInt64
  | ⟨.increment counter amount, _⟩ => if counter = name then some amount else none
  | _ => none

/-- The help texts of the registrations of a metric that succeeded, in order. -/
def helpsFor (kind : Kind) (name : String) (entries : List Entry) : List String :=
  entries.filterMap (Entry.helpFor? kind name)

/-- The answers to the writes of a flag, in order. -/
def flagAnswers (name : String) (entries : List Entry) : List Bool :=
  entries.filterMap (Entry.flagAnswer? name)

/-- The values that were written to a property, each with the answer, in order. -/
def propertySets (name : String) (entries : List Entry) : List (String × Bool) :=
  entries.filterMap (Entry.propertySet? name)

/-- The amounts that were added to a counter, in order. -/
def amounts (name : String) (entries : List Entry) : List UInt64 :=
  entries.filterMap (Entry.amount? name)

/-- The value of a metric by the entries: a flag is set when it was written, a property has the value
    that was written first, and a counter has the sum of all amounts, around the end of its 64 bits. -/
def Kind.valueBy (name : String) (entries : List Entry) : Kind → Content
  | flag => .flag !(flagAnswers name entries).isEmpty
  | counter => .counter (amounts name entries).sum
  | property => .property ((propertySets name entries).head?.map (·.1))

/-- A property has no value when it was not written. -/
theorem valueBy_property_eq_none_iff {name : String} {entries : List Entry} :
    Kind.property.valueBy name entries = .property none ↔ propertySets name entries = [] := by
  simp [Kind.valueBy]

/-- The metric by the entries, with the help text of its first registration. -/
def familyBy? (kind : Kind) (name : String) (entries : List Entry) : Option Family :=
  (helpsFor kind name entries).head?.map fun help =>
    { kind.family name help with content := kind.valueBy name entries }

/-- The first answer is yes, and all others are no. -/
def onlyFirst : List Bool → Bool
  | [] => true
  | first :: later => first && later.all (!·)

theorem onlyFirst_append {answers : List Bool} (h : onlyFirst answers) :
    onlyFirst (answers ++ [answers.isEmpty]) := by
  cases answers with
  | nil => rfl
  | cons first later => simpa [onlyFirst] using h

/-! ## §3 What an Action Changes -/

namespace Action

theorem keepsKind_setFlag : Registry.KeepsKind .flag fun _ => .flag true :=
  fun _ _ => rfl

theorem keepsKind_setProperty (value : String) :
    Registry.KeepsKind .property fun _ => .property (some value) :=
  fun _ _ => rfl

/-- Counting changes the value of a counter by the amount. -/
def addTo (amount : UInt64) : Content → Content
  | .counter value => .counter (value + amount)
  | content => content

theorem keepsKind_addTo (amount : UInt64) : Registry.KeepsKind .counter (addTo amount) := by
  intro content hkind
  cases content <;> first | rfl | exact hkind

/-- A property is written once. -/
theorem setProperty_cases (registry : Registry) (name value : String) :
    ((∃ family, registry.find? .property name = some family ∧ family.content = .property none) ∧
      registry.setProperty name value =
        (true, registry.modify .property name fun _ => .property (some value))) ∨
    ((∀ family, registry.find? .property name = some family → family.content ≠ .property none) ∧
      registry.setProperty name value = (false, registry)) := by
  unfold Registry.setProperty
  cases hfind : registry.find? .property name with
  | none => exact .inr ⟨by simp, rfl⟩
  | some family =>
    by_cases hblank : family.content = .property none
    · exact .inl ⟨⟨family, rfl, hblank⟩, if_pos hblank⟩
    · exact .inr ⟨fun found hfound => Option.some.inj hfound ▸ hblank, if_neg hblank⟩

/-- An action changes nothing, or it registers a metric, or it changes the value of the metric that it is
    about. -/
theorem run_cases (action : Action) (registry : Registry) :
    (action.run registry).2 = registry ∨
    (∃ family, action = .register family ∧
      registry.declare family = .ok (action.run registry).2) ∨
    (∃ kind name change, action.target = (some kind, name) ∧ Registry.KeepsKind kind change ∧
      (action.run registry).2 = registry.modify kind name change) := by
  cases action with
  | register family =>
    simp only [run]
    cases hdeclare : registry.declare family with
    | error cause => exact .inl rfl
    | ok registry' => exact .inr (.inl ⟨family, rfl, hdeclare⟩)
  | setFlag flag => exact .inr (.inr ⟨.flag, flag, _, rfl, keepsKind_setFlag, rfl⟩)
  | setProperty property value =>
    obtain ⟨-, hset⟩ | ⟨-, hset⟩ := setProperty_cases registry property value
    · exact .inr (.inr ⟨.property, property, _, rfl, keepsKind_setProperty value,
        congrArg Prod.snd hset⟩)
    · exact .inl (congrArg Prod.snd hset)
  | increment counter amount =>
    exact .inr (.inr ⟨.counter, counter, addTo amount, rfl, keepsKind_addTo amount, rfl⟩)

variable (action : Action) (registry : Registry)

/-- An action changes the metric that it is about, and no other. -/
theorem find?_run {kind : Kind} {name : String} (hother : action.target ≠ (some kind, name)) :
    (action.run registry).2.find? kind name = registry.find? kind name := by
  obtain hsame | ⟨family, rfl, hdeclare⟩ | ⟨kind', name', change, htarget, hchange, hrun⟩ :=
    action.run_cases registry
  · rw [hsame]
  · -- the registered metric is another one, so what is found stays
    have hnamed : ¬ family.isNamed kind name := by
      intro hnamed
      obtain ⟨hkind, hname⟩ := Registry.isNamed_iff.1 hnamed
      exact hother (Prod.ext hkind hname)
    rw [Registry.find?_declare hdeclare, if_neg hnamed, Option.or_none]
  · rw [hrun]
    apply Registry.find?_modify_of_ne registry hchange
    rintro ⟨⟩
    exact hother htarget

/-- An action neither removes a metric nor changes the order of the metrics. -/
theorem prefix_identity_run :
    registry.families.map Family.identity <+:
      (action.run registry).2.families.map Family.identity := by
  obtain hsame | ⟨family, -, hdeclare⟩ | ⟨kind, name, change, -, hchange, hrun⟩ :=
    action.run_cases registry
  · rw [hsame]
  · exact Registry.prefix_identity_declare hdeclare
  · rw [hrun, registry.map_identity_modify name hchange]

/-- The trace of the calls is no part of it. -/
@[simp] theorem trace_run : (action.run registry).2.trace = registry.trace := by
  obtain hsame | ⟨family, -, hdeclare⟩ | ⟨kind, name, change, -, -, hrun⟩ :=
    action.run_cases registry
  · rw [hsame]
  · obtain ⟨-, h⟩ | ⟨-, -, h⟩ := Registry.declare_ok_cases hdeclare
    · rw [h]
    · rw [h]
  · rw [hrun]
    rfl

variable {action} {registry}

theorem sound_run (h : registry.Sound) (hpossible : action.isPossible registry) :
    (action.run registry).2.Sound := by
  obtain hsame | ⟨family, rfl, hdeclare⟩ | ⟨kind, name, change, -, hchange, hrun⟩ :=
    action.run_cases registry
  · rwa [hsame]
  · simp only [isPossible, Family.isDeclared, Bool.and_eq_true] at hpossible
    exact h.declare hpossible.1 hdeclare
  · rw [hrun]
    exact h.modify name hchange

/-- An action that is not possible changes nothing, unless it registers something else than a metric
    that is declared. -/
theorem run_of_not_isPossible (hpossible : ¬ action.isPossible registry)
    (hdeclared : ∀ family, action = .register family → family.isDeclared) :
    (action.run registry).2 = registry := by
  obtain hsame | ⟨family, rfl, -⟩ | ⟨kind, name, change, htarget, -, hrun⟩ :=
    action.run_cases registry
  · exact hsame
  · exact absurd (hdeclared family rfl) hpossible
  · -- the action writes a metric that is not there
    have hnone : registry.find? kind name = none := by
      cases action with
      | register family => exact absurd (hdeclared family rfl) hpossible
      | _ =>
        cases htarget
        simpa [isPossible] using hpossible
    rw [hrun, Registry.modify_of_find?_eq_none hnone]

end Action

/-- Counting is seen at the counter, and at no other. -/
theorem Registry.counter?_increment (registry : Registry) (name other : String) (amount : UInt64) :
    (registry.increment name amount).counter? other =
      if other = name then (registry.counter? other).map (· + amount)
      else registry.counter? other := by
  -- counting is the change of a content that the actions of a book are described with
  change ((registry.modify .counter name (Action.addTo amount)).find? .counter other).bind _ = _
  by_cases hname : other = name
  · subst hname
    rw [if_pos rfl, Registry.counter?]
    cases hfind : registry.find? .counter other with
    | none =>
      rw [Registry.modify_of_find?_eq_none hfind, hfind]
      rfl
    | some family =>
      rw [Registry.find?_modify_self hfind (Action.keepsKind_addTo amount)]
      cases hcontent : family.content <;> simp [Action.addTo, hcontent]
  · have hne : (Kind.counter, other) ≠ (.counter, name) := by simpa using hname
    rw [if_neg hname, Registry.find?_modify_of_ne registry (Action.keepsKind_addTo amount) hne]
    rfl

/-- A counter that is found reads a value. -/
theorem Registry.isSome_counter? (registry : Registry) (name : String) :
    (registry.counter? name).isSome = (registry.find? .counter name).isSome := by
  rw [Registry.counter?]
  cases hfind : registry.find? .counter name with
  | none => rfl
  | some family =>
    have hkind := (Registry.isNamed_iff.1 (Registry.isNamed_of_find? hfind)).1
    cases hcontent : family.content <;> simp_all [Content.kind?]

/-- An action that does not count leaves a counter as it is, or registers it at zero. -/
theorem Action.counter?_run {action : Action} {registry : Registry} {name : String}
    (hpossible : action.isPossible registry) (hother : ∀ amount, action ≠ .increment name amount) :
    (action.run registry).2.counter? name = registry.counter? name ∨
      (registry.counter? name = none ∧ (action.run registry).2.counter? name = some 0) := by
  by_cases htarget : action.target = (some .counter, name)
  · cases action with
    | register family =>
      obtain ⟨hkind, hname⟩ := Prod.ext_iff.1 htarget
      have hnamed : family.isNamed .counter name := Registry.isNamed_iff.2 ⟨hkind, hname⟩
      simp only [run]
      cases hdeclare : registry.declare family with
      | error cause => exact .inl rfl
      | ok registry' =>
        have hfind := Registry.find?_declare hdeclare .counter name
        rw [if_pos hnamed] at hfind
        cases hfound : registry.find? .counter name with
        | some found =>
          rw [hfound, Option.some_or] at hfind
          exact .inl (by rw [Registry.counter?, Registry.counter?, hfind, hfound])
        | none =>
          rw [hfound, Option.none_or, Family.eq_family hpossible hnamed] at hfind
          exact .inr ⟨by rw [Registry.counter?, hfound]; rfl, by rw [Registry.counter?, hfind]; rfl⟩
    | increment counter amount =>
      cases htarget
      exact absurd rfl (hother amount)
    | setFlag flag => cases htarget
    | setProperty property value => cases htarget
  · exact .inl (by rw [Registry.counter?, Registry.counter?, find?_run action registry htarget])

/-- Doing an action in a book has the effect of the action. -/
theorem Book.registry_act (book : Book) (action : Action)
    (hdeclared : ∀ family, action = .register family → family.isDeclared) :
    (book.act action).registry = (action.run book.registry).2 := by
  unfold act
  split
  · rfl
  · rename_i hpossible
    rw [Action.run_of_not_isPossible hpossible hdeclared]

/-- What an action does to a book, it does to the registry, or it does nothing. -/
theorem Book.act_cases (book : Book) (action : Action) :
    book.act action = book ∨
      (book.act action).registry = (action.run book.registry).2 := by
  unfold act
  split
  · exact .inr rfl
  · exact .inl rfl

theorem Book.prefix_identity_act (book : Book) (action : Action) :
    book.registry.families.map Family.identity <+:
      (book.act action).registry.families.map Family.identity := by
  obtain hsame | hrun := book.act_cases action
  · rw [hsame]
  · rw [hrun]
    exact action.prefix_identity_run book.registry

@[simp] theorem Book.trace_act (book : Book) (action : Action) :
    (book.act action).registry.trace = book.registry.trace := by
  obtain hsame | hrun := book.act_cases action
  · rw [hsame]
  · rw [hrun, action.trace_run]

theorem Book.sound_act {book : Book} (h : book.registry.Sound) (action : Action) :
    (book.act action).registry.Sound := by
  unfold act
  split
  · rename_i hpossible
    exact Action.sound_run h hpossible
  · exact h

/-- The entries are all that was done: doing it again in a new registry leads to the same book. -/
def Book.IsReplayed (book : Book) : Prop :=
  empty.acts (book.entries.map (·.action)) = book

theorem Book.isReplayed_empty : IsReplayed empty := rfl

theorem Book.IsReplayed.act {book : Book} (h : book.IsReplayed) (action : Action) :
    (book.act action).IsReplayed := by
  unfold IsReplayed at *
  by_cases hpossible : action.isPossible book.registry
  · have hentries : (book.act action).entries.map (·.action) =
        book.entries.map (·.action) ++ [action] := by
      simp [Book.act, hpossible]
    rw [hentries, acts, List.foldl_append]
    exact congrArg (Book.act · action) h
  · rwa [Book.act, if_neg hpossible]

/-- What every action keeps is kept by any number of actions. -/
theorem Book.acts_keep {P : Book → Prop} (hact : ∀ book action, P book → P (book.act action))
    {book : Book} (h : P book) (actions : List Action) : P (book.acts actions) := by
  induction actions generalizing book with
  | nil => exact h
  | cons action actions ih => exact ih (hact book action h)

/-! ## §4 Balanced Books -/

/-- The registry is sound, what is found in it is what the entries say, and of the writes of a flag or of
    a property the first one was told to be the first, and no other. -/
structure Book.Balanced (book : Book) : Prop where
  sound : book.registry.Sound
  found : ∀ kind name, book.registry.find? kind name = familyBy? kind name book.entries
  /-- Nothing was written before it was registered. -/
  unwritten : ∀ kind name, helpsFor kind name book.entries = [] →
    kind.valueBy name book.entries = kind.blank
  flagsOnce : ∀ name, onlyFirst (flagAnswers name book.entries)
  propertiesOnce : ∀ name, onlyFirst ((propertySets name book.entries).map (·.2))

namespace Book.Balanced

variable {book : Book}

theorem empty : Balanced .empty where
  sound := .empty
  found _ _ := rfl
  unwritten kind _ _ := by cases kind <;> rfl
  flagsOnce _ := rfl
  propertiesOnce _ := rfl

/-! ### What the metrics read -/

theorem find?_eq_none_iff (h : Balanced book) (kind : Kind) (name : String) :
    book.registry.find? kind name = none ↔ helpsFor kind name book.entries = [] := by
  rw [h.found, familyBy?, Option.map_eq_none_iff, List.head?_eq_none_iff]

/-- What is found has the value that the entries say. -/
theorem content_of_find? (h : Balanced book) {kind : Kind} {name : String} {family : Family}
    (hfind : book.registry.find? kind name = some family) :
    family.content = kind.valueBy name book.entries := by
  rw [h.found, familyBy?] at hfind
  obtain ⟨help, -, rfl⟩ := Option.map_eq_some_iff.1 hfind
  rfl

/-- A flag that was registered reads whether it was written. -/
theorem flag? (h : Balanced book) (name : String) :
    book.registry.flag? name =
      if helpsFor .flag name book.entries = [] then none
      else some !(flagAnswers name book.entries).isEmpty := by
  split
  · rename_i hnone
    rw [Registry.flag?, (h.find?_eq_none_iff .flag name).2 hnone]
    rfl
  · rename_i hsome
    rw [← h.find?_eq_none_iff] at hsome
    obtain ⟨family, hfind⟩ := Option.ne_none_iff_exists'.1 hsome
    rw [Registry.flag?, hfind, Option.bind_some, h.content_of_find? hfind]
    rfl

/-- A property reads the value that was written first. -/
theorem property? (h : Balanced book) (name : String) :
    book.registry.property? name = (propertySets name book.entries).head?.map (·.1) := by
  cases hfind : book.registry.find? .property name with
  | none =>
    have hblank := h.unwritten .property name ((h.find?_eq_none_iff .property name).1 hfind)
    simp only [Kind.valueBy, Kind.blank, Content.property.injEq] at hblank
    rw [Registry.property?, hfind, hblank]
    rfl
  | some family =>
    rw [Registry.property?, hfind, Option.bind_some, h.content_of_find? hfind]
    rfl

/-- A counter that was registered reads the sum of all amounts. -/
theorem counter? (h : Balanced book) (name : String) :
    book.registry.counter? name =
      if helpsFor .counter name book.entries = [] then none
      else some (amounts name book.entries).sum := by
  split
  · rename_i hnone
    rw [Registry.counter?, (h.find?_eq_none_iff .counter name).2 hnone]
    rfl
  · rename_i hsome
    rw [← h.find?_eq_none_iff] at hsome
    obtain ⟨family, hfind⟩ := Option.ne_none_iff_exists'.1 hsome
    rw [Registry.counter?, hfind, Option.bind_some, h.content_of_find? hfind]
    rfl

end Book.Balanced

/-! ## §5 One More Entry -/

section Append

variable (kind : Kind) (name : String) (entries : List Entry) (entry : Entry)

private theorem filterMap_append_singleton {α β : Type} (f : α → Option β) (as : List α) (a : α) :
    (as ++ [a]).filterMap f = as.filterMap f ++ (f a).toList := by
  rw [List.filterMap_append, List.filterMap_cons]
  cases f a <;> rfl

theorem helpsFor_append :
    helpsFor kind name (entries ++ [entry]) =
      helpsFor kind name entries ++ (entry.helpFor? kind name).toList :=
  filterMap_append_singleton _ _ _

theorem flagAnswers_append :
    flagAnswers name (entries ++ [entry]) =
      flagAnswers name entries ++ (entry.flagAnswer? name).toList :=
  filterMap_append_singleton _ _ _

theorem propertySets_append :
    propertySets name (entries ++ [entry]) =
      propertySets name entries ++ (entry.propertySet? name).toList :=
  filterMap_append_singleton _ _ _

theorem amounts_append :
    amounts name (entries ++ [entry]) = amounts name entries ++ (entry.amount? name).toList :=
  filterMap_append_singleton _ _ _

variable {kind} {name}

/-- Only a registration of the metric gives it a help text. -/
theorem helpFor?_eq_none {action : Action} (hother : action.target ≠ (some kind, name))
    (answer : Bool) : Entry.helpFor? kind name ⟨action, answer⟩ = none := by
  cases action with
  | register family =>
    have hnamed : ¬ family.isNamed kind name := by
      intro hnamed
      obtain ⟨hkind, hname⟩ := Registry.isNamed_iff.1 hnamed
      exact hother (Prod.ext hkind hname)
    cases answer <;> simp [Entry.helpFor?, hnamed]
  | _ => rfl

/-- Only a write of the metric changes its value. -/
theorem valueBy_append_of_ne {action : Action} (hother : action.target ≠ (some kind, name))
    (answer : Bool) :
    kind.valueBy name (entries ++ [⟨action, answer⟩]) = kind.valueBy name entries := by
  cases kind <;> cases action <;>
    simp_all [Kind.valueBy, flagAnswers_append, propertySets_append, amounts_append,
      Entry.flagAnswer?, Entry.propertySet?, Entry.amount?, Action.target]

/-- A registration changes no value. -/
theorem valueBy_append_register (family : Family) (answer : Bool) :
    kind.valueBy name (entries ++ [⟨.register family, answer⟩]) = kind.valueBy name entries := by
  cases kind <;>
    simp [Kind.valueBy, flagAnswers_append, propertySets_append, amounts_append,
      Entry.flagAnswer?, Entry.propertySet?, Entry.amount?]

end Append

namespace Book.Balanced

variable {book : Book} {action : Action}

/-- After a write the metric has the value by the entries. -/
theorem find?_run_write (h : Balanced book) {kind : Kind} {name : String} {family : Family}
    (hwrite : ∀ declared, action ≠ .register declared) (htarget : action.target = (some kind, name))
    (hfind : book.registry.find? kind name = some family) :
    (action.run book.registry).2.find? kind name = some { family with
      content := kind.valueBy name
        (book.entries ++ [⟨action, (action.run book.registry).1⟩]) } := by
  have hcontent := h.content_of_find? hfind
  cases action with
  | register declared => exact absurd rfl (hwrite declared)
  | setFlag flag =>
    cases htarget
    refine (Registry.find?_modify_self hfind Action.keepsKind_setFlag).trans ?_
    simp [Kind.valueBy, flagAnswers_append, Entry.flagAnswer?]
  | setProperty property value =>
    cases htarget
    obtain ⟨⟨found, hfound, hblank⟩, hset⟩ | ⟨hwritten, hset⟩ :=
      Action.setProperty_cases book.registry name value
    · obtain rfl := Option.some.inj (hfind.symm.trans hfound)
      refine (congrArg (Registry.find? · .property name) (congrArg Prod.snd hset)).trans ?_
      refine (Registry.find?_modify_self hfind (Action.keepsKind_setProperty value)).trans ?_
      -- nothing was written before, so this value is the first one
      have hnone : propertySets name book.entries = [] :=
        valueBy_property_eq_none_iff.1 (hcontent.symm.trans hblank)
      simp [Kind.valueBy, propertySets_append, Entry.propertySet?, hnone]
    · -- the property was written before, and the first value stays
      refine (congrArg (Registry.find? · .property name) (congrArg Prod.snd hset)).trans ?_
      have hsome : propertySets name book.entries ≠ [] := fun hnone =>
        hwritten family hfind (hcontent.trans (valueBy_property_eq_none_iff.2 hnone))
      obtain ⟨first, later, hsets⟩ := List.exists_cons_of_ne_nil hsome
      have hsame : ∀ entry, Kind.property.valueBy name (book.entries ++ [entry]) =
          family.content := by
        intro entry
        rw [hcontent, Kind.valueBy, Kind.valueBy, propertySets_append, hsets]
        rfl
      rw [hsame]
      exact hfind
  | increment counter amount =>
    cases htarget
    refine (Registry.find?_modify_self hfind (Action.keepsKind_addTo amount)).trans ?_
    simp [Kind.valueBy, amounts_append, Entry.amount?, hcontent, Action.addTo]

/-- The answer to the write of a flag tells whether it was not written before. -/
theorem answer_setFlag (h : Balanced book) {flag : String}
    (hpossible : (Action.setFlag flag).isPossible book.registry) :
    ((Action.setFlag flag).run book.registry).1 = (flagAnswers flag book.entries).isEmpty := by
  obtain ⟨family, hfind⟩ := Option.isSome_iff_exists.1 hpossible
  have hflag : book.registry.flag? flag = some !(flagAnswers flag book.entries).isEmpty := by
    rw [Registry.flag?, hfind, Option.bind_some, h.content_of_find? hfind]
    rfl
  change (book.registry.flag? flag == some false) = _
  rw [hflag]
  cases (flagAnswers flag book.entries).isEmpty <;> rfl

/-- The answer to the write of a property tells whether it was not written before. -/
theorem answer_setProperty (h : Balanced book) {property value : String}
    (hpossible : (Action.setProperty property value).isPossible book.registry) :
    ((Action.setProperty property value).run book.registry).1 =
      (propertySets property book.entries).isEmpty := by
  obtain ⟨family, hfind⟩ := Option.isSome_iff_exists.1 hpossible
  have hcontent := h.content_of_find? hfind
  obtain ⟨⟨found, hfound, hblank⟩, hset⟩ | ⟨hwritten, hset⟩ :=
    Action.setProperty_cases book.registry property value
  · obtain rfl := Option.some.inj (hfind.symm.trans hfound)
    have hnone := valueBy_property_eq_none_iff.1 (hcontent.symm.trans hblank)
    exact (congrArg Prod.fst hset).trans (by simp [hnone])
  · have hsome : propertySets property book.entries ≠ [] := fun hnone =>
      hwritten family hfind (hcontent.trans (valueBy_property_eq_none_iff.2 hnone))
    exact (congrArg Prod.fst hset).trans (by simp [hsome])

/-- A registration that succeeds leaves the metric found with the help text of its first one. -/
theorem find?_run_register (h : Balanced book) {declared : Family} {kind : Kind} {name : String}
    (hdeclared : declared.isDeclared) (hnamed : declared.isNamed kind name) :
    ((Action.register declared).run book.registry).2.find? kind name =
      familyBy? kind name (book.entries ++
        [⟨.register declared, ((Action.register declared).run book.registry).1⟩]) := by
  have hfound := h.found kind name
  rw [familyBy?, helpsFor_append, valueBy_append_register]
  rw [familyBy?] at hfound
  simp only [Action.run]
  cases hdeclare : book.registry.declare declared with
  | error cause => simpa [Entry.helpFor?] using hfound
  | ok registry' =>
    -- a metric that was registered before keeps its help text, and a new one is blank
    simp only [Registry.find?_declare hdeclare, hnamed, if_true, Entry.helpFor?, hfound]
    cases hhelps : helpsFor kind name book.entries with
    | nil =>
      rw [h.unwritten kind name hhelps]
      exact congrArg some (Family.eq_family hdeclared hnamed)
    | cons help later => rfl

/-- What can be written was registered. -/
theorem helpsFor_ne_nil (h : Balanced book) {kind : Kind} {name : String}
    (hpossible : action.isPossible book.registry) (hwrite : ∀ declared, action ≠ .register declared)
    (htarget : action.target = (some kind, name)) : helpsFor kind name book.entries ≠ [] := by
  rw [ne_eq, ← h.find?_eq_none_iff]
  cases action with
  | register declared => exact absurd rfl (hwrite declared)
  | _ =>
    cases htarget
    exact Option.isSome_iff_ne_none.1 hpossible

/-- What is found after an action is what the entries say. -/
theorem find?_run (h : Balanced book) (hpossible : action.isPossible book.registry) (kind : Kind)
    (name : String) :
    (action.run book.registry).2.find? kind name =
      familyBy? kind name (book.entries ++ [⟨action, (action.run book.registry).1⟩]) := by
  by_cases htarget : action.target = (some kind, name)
  · by_cases hregister : ∃ declared, action = .register declared
    · obtain ⟨declared, rfl⟩ := hregister
      obtain ⟨hkind, hname⟩ := Prod.ext_iff.1 htarget
      exact h.find?_run_register hpossible (Registry.isNamed_iff.2 ⟨hkind, hname⟩)
    · have hwrite : ∀ declared, action ≠ .register declared :=
        fun declared heq => hregister ⟨declared, heq⟩
      have hhelps := h.helpsFor_ne_nil hpossible hwrite htarget
      obtain ⟨help, later, hhelps⟩ := List.exists_cons_of_ne_nil hhelps
      have hfind := h.found kind name
      rw [familyBy?, hhelps, List.head?_cons, Option.map_some] at hfind
      rw [h.find?_run_write hwrite htarget hfind, familyBy?, helpsFor_append, hhelps]
      rfl
  · rw [Action.find?_run action book.registry htarget, h.found, familyBy?, familyBy?,
      helpsFor_append, helpFor?_eq_none htarget, valueBy_append_of_ne _ htarget, Option.toList_none,
      List.append_nil]

/-- **One action keeps the balance.** -/
theorem act (h : Balanced book) (action : Action) : Balanced (book.act action) := by
  unfold Book.act
  split
  swap
  · exact h
  rename_i hpossible
  -- left are the three fields about the entries alone
  refine ⟨Action.sound_run h.sound hpossible, h.find?_run hpossible, ?_, ?_, ?_⟩
  · intro kind name hhelps
    rw [helpsFor_append, List.append_eq_nil_iff] at hhelps
    rw [← h.unwritten kind name hhelps.1]
    by_cases htarget : action.target = (some kind, name)
    · -- only a registration can be about a metric that was not registered
      cases action with
      | register declared => exact valueBy_append_register book.entries declared _
      | _ => exact absurd hhelps.1 (h.helpsFor_ne_nil hpossible (by simp) htarget)
    · exact valueBy_append_of_ne book.entries htarget _
  · intro name
    rw [flagAnswers_append]
    cases action with
    | setFlag flag =>
      by_cases hflag : flag = name
      · subst hflag
        simp only [Entry.flagAnswer?, if_true, Option.toList_some, h.answer_setFlag hpossible]
        exact onlyFirst_append (h.flagsOnce flag)
      · simpa [Entry.flagAnswer?, hflag] using h.flagsOnce name
    | _ => simpa [Entry.flagAnswer?] using h.flagsOnce name
  · intro name
    rw [propertySets_append, List.map_append]
    cases action with
    | setProperty property value =>
      by_cases hproperty : property = name
      · subst hproperty
        simp only [Entry.propertySet?, if_true, Option.toList_some, List.map_cons, List.map_nil,
          h.answer_setProperty hpossible]
        simpa using onlyFirst_append (h.propertiesOnce property)
      · simpa [Entry.propertySet?, hproperty] using h.propertiesOnce name
    | _ => simpa [Entry.propertySet?] using h.propertiesOnce name

end Book.Balanced

end RoleDaemon.Metrics

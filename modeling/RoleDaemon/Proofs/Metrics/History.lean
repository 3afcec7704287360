import RoleDaemon.Environment.Basic
import RoleDaemon.Proofs.Metrics.Enrolment

/-!
# The Metrics of a Process over Its History

The metrics of a process are registered and written one by one, and by the components that are built
on them: the trace of the calls, the readiness flags, lists of live tasks, and environments.  Whatever
is done in whatever order, also with registrations that fail, the metrics read what was done.

## Architecture

- `Operation`: one operation on the metrics of a process, `Operation.actions`: what it does with them
- `History`: a process with the entries of all that was done to its metrics
- `book_operate`: an operation has the effect of its actions
- `balanced_operateAll`: hence the book of every history is balanced

Main statements:
- `metrics_follow_history`: names, values and answers after any history
-/

namespace RoleDaemon

open Metrics

/-! ## §1 Operations -/

namespace Metrics

/-- What is done with the metrics of a process: a single action, or the construction of a component
    that registers metrics of its own. -/
inductive Operation where
  | act (action : Action)
  | trace
  | readiness
  | taskList
  | environment (identity : Identity) (config : Config) (now : Timestamp)

namespace Operation

/-- The process after the operation, which may have failed. -/
def run (machine : Machine) : Operation → Machine
  | act action =>
    if action.isPossible machine.metrics then
      { machine with metrics := (action.run machine.metrics).2 }
    else machine
  | trace => { machine with metrics := machine.metrics.addTrace.1 }
  | readiness => (Readiness.register machine).1
  | taskList => machine.newTaskList.1
  | environment identity config now => (Environment.init identity config now machine).1

/-- The metrics without a value that a list of families enrols. -/
def blankEnrolments (families : List Family) : List Registry.Enrolment :=
  families.map fun family => ⟨family, none⟩

/-- What the operation does with the metrics.  An environment that serves its pages has started a task,
    which is counted. -/
def actions (machine : Machine) : Operation → List Action
  | act action => [action]
  | trace => Registry.enrolActions (blankEnrolments Registry.traceFamilies) machine.metrics
  | readiness => Registry.enrolActions (blankEnrolments Readiness.families) machine.metrics
  | taskList =>
    Registry.enrolActions (blankEnrolments [Machine.tasksCreatedFamily]) machine.metrics
  | environment identity config now =>
    Registry.enrolActions (Environment.enrolments identity config now) machine.metrics ++
      match (Environment.init identity config now machine).2 with
      | .ok ⟨_, _, some _⟩ => [.increment Machine.tasksCreated 1]
      | _ => []

/-! ## §2 Operations and Their Actions -/

theorem isDeclared_blankEnrolments {families : List Family}
    (h : ∀ family ∈ families, family.isDeclared) :
    ∀ enrolment ∈ blankEnrolments families, enrolment.family.isDeclared := by
  intro enrolment henrolment
  obtain ⟨family, hfamily, rfl⟩ := List.mem_map.1 henrolment
  exact h family hfamily

theorem isDeclared_traceFamilies : ∀ family ∈ Registry.traceFamilies, family.isDeclared := by
  decide

theorem isDeclared_readiness : ∀ family ∈ Readiness.families, family.isDeclared := by
  intro family hfamily
  simp only [Readiness.families, List.mem_cons, List.not_mem_nil, or_false] at hfamily
  obtain rfl | rfl | rfl := hfamily <;> exact Family.isDeclared_family .flag _ _

theorem isDeclared_tasksCreated : Machine.tasksCreatedFamily.isDeclared :=
  Family.isDeclared_family .counter _ _

theorem isDeclared_environment (identity : Identity) (config : Config) (now : Timestamp) :
    ∀ enrolment ∈ Environment.enrolments identity config now, enrolment.family.isDeclared := by
  intro enrolment henrolment
  rw [Environment.enrolments, List.mem_append] at henrolment
  rcases henrolment with hproperty | hshared
  · simp only [Environment.processProperties, List.mem_cons, List.not_mem_nil, or_false] at hproperty
    obtain rfl | rfl | rfl | rfl := hproperty <;> exact Family.isDeclared_family .property _ _
  · apply isDeclared_blankEnrolments ?_ enrolment hshared
    intro family hfamily
    simp only [Environment.sharedFamilies, ExecutionService.families, List.mem_append,
      List.mem_cons, List.not_mem_nil, or_false] at hfamily
    obtain (rfl | hseries) | rfl | rfl := hfamily
    · exact isDeclared_tasksCreated
    · exact isDeclared_traceFamilies family hseries
    · exact Family.isDeclared_family .counter _ _
    · exact Family.isDeclared_family .counter _ _

/-- Building an environment enrols its metrics, and counts a task where the pages are served. -/
theorem metrics_init (identity : Identity) (config : Config) (now : Timestamp) (machine : Machine) :
    (Environment.init identity config now machine).1.metrics =
      match (Environment.init identity config now machine).2 with
      | .ok ⟨_, _, some _⟩ =>
        (Registry.enroll (Environment.enrolments identity config now)
          machine.metrics).1.increment Machine.tasksCreated 1
      | _ => (Registry.enroll (Environment.enrolments identity config now) machine.metrics).1 := by
  unfold Environment.init Machine.enroll
  rcases henroll : Registry.enroll (Environment.enrolments identity config now) machine.metrics with
    ⟨enrolled, cause | _⟩
  · rfl
  · -- the task of the pages is the only one, and it starts when the endpoint is free
    cases config.webserver.enabled with
    | false => rfl
    | true =>
      simp only [if_true, Environment.startWebServer]
      cases machine.sockets.listen ⟨config.webserver.interface, config.webserver.port⟩ with
      | error fault => rfl
      | ok opened => rfl

/-- An operation has the effect of its actions. -/
theorem registry_acts (operation : Operation) (machine : Machine) (entries : List Entry) :
    (Book.acts ⟨machine.metrics, entries⟩ (operation.actions machine)).registry =
      (operation.run machine).metrics := by
  cases operation with
  | act action =>
    simp only [actions, run, Book.acts, List.foldl_cons, List.foldl_nil, Book.act]
    split <;> rfl
  | trace =>
    exact Registry.registry_enrolActions (isDeclared_blankEnrolments isDeclared_traceFamilies)
      ⟨machine.metrics, entries⟩
  | readiness =>
    exact Registry.registry_enrolActions (isDeclared_blankEnrolments isDeclared_readiness)
      ⟨machine.metrics, entries⟩
  | taskList =>
    have hdeclared : ∀ family ∈ [Machine.tasksCreatedFamily], family.isDeclared := by
      simp [isDeclared_tasksCreated]
    have henroll := Registry.registry_enrolActions (isDeclared_blankEnrolments hdeclared)
      ⟨machine.metrics, entries⟩
    refine henroll.trans ?_
    simp only [run, Machine.newTaskList, Machine.enroll, blankEnrolments, List.map_cons, List.map_nil]
    rcases Registry.enroll [⟨Machine.tasksCreatedFamily, none⟩] machine.metrics with
      ⟨enrolled, cause | _⟩ <;> rfl
  | environment identity config now =>
    have henroll := Registry.registry_enrolActions (isDeclared_environment identity config now)
      ⟨machine.metrics, entries⟩
    simp only [actions, run, metrics_init, Book.acts, List.foldl_append]
    split
    · refine (Book.registry_act _ _ (by simp)).trans ?_
      exact congrArg (Registry.increment · Machine.tasksCreated 1) henroll
    · exact henroll

end Operation

/-! ## §3 Histories -/

/-- A process, and all that was done to its metrics. -/
structure History where
  machine : Machine
  entries : List Entry

/-- Numbers of 64 bits are summed around their end. -/
theorem toNat_sum (numbers : List UInt64) :
    numbers.sum.toNat = (numbers.map UInt64.toNat).sum % 2 ^ 64 := by
  induction numbers with
  | nil => rfl
  | cons number numbers ih =>
    rw [List.sum_cons, List.map_cons, List.sum_cons, UInt64.toNat_add, ih, Nat.add_mod_mod]

namespace History

/-- A new process. -/
def start (taken : List Net.Endpoint) : History := ⟨.fresh taken, []⟩

def book (history : History) : Book := ⟨history.machine.metrics, history.entries⟩

/-- One more operation, and the entries of its actions. -/
def operate (history : History) (operation : Operation) : History :=
  ⟨operation.run history.machine, (history.book.acts (operation.actions history.machine)).entries⟩

/-- The operations, one after the other. -/
def operateAll (history : History) (operations : List Operation) : History :=
  operations.foldl operate history

theorem book_operate (history : History) (operation : Operation) :
    (history.operate operation).book = history.book.acts (operation.actions history.machine) := by
  have hregistry := operation.registry_acts history.machine history.entries
  simp only [operate, book, ← hregistry]

theorem operateAll_append (history : History) (earlier later : List Operation) :
    history.operateAll (earlier ++ later) = (history.operateAll earlier).operateAll later :=
  List.foldl_append

/-- What every action keeps is kept by any operations. -/
theorem operateAll_keep {P : Book → Prop} (hact : ∀ book action, P book → P (book.act action))
    (history : History) (h : P history.book) (operations : List Operation) :
    P (history.operateAll operations).book := by
  induction operations generalizing history with
  | nil => exact h
  | cons operation operations ih =>
    apply ih (history.operate operation)
    rw [book_operate]
    exact Book.acts_keep hact h _

theorem balanced_operateAll (taken : List Net.Endpoint) (operations : List Operation) :
    ((start taken).operateAll operations).book.Balanced :=
  operateAll_keep (fun _ action h => h.act action) (start taken) Book.Balanced.empty operations

theorem replayed_operateAll (taken : List Net.Endpoint) (operations : List Operation) :
    ((start taken).operateAll operations).book.IsReplayed :=
  operateAll_keep (P := Book.IsReplayed) (fun _ action h => h.act action) (start taken) Book.isReplayed_empty operations

/-- Operations neither remove a metric nor change the order of the metrics. -/
theorem prefix_identity_operateAll (history : History) (operations : List Operation) :
    history.machine.metrics.families.map Family.identity <+:
      (history.operateAll operations).machine.metrics.families.map Family.identity :=
  operateAll_keep (P := fun book => history.machine.metrics.families.map Family.identity <+:
      book.registry.families.map Family.identity)
    (fun book action h => h.trans (book.prefix_identity_act action)) history List.prefix_rfl operations

/-- Operations on the metrics trace no calls. -/
theorem trace_operateAll (taken : List Net.Endpoint) (operations : List Operation) :
    ((start taken).operateAll operations).machine.metrics.trace = .empty :=
  operateAll_keep (P := fun book => book.registry.trace = .empty)
    (fun book action h => (book.trace_act action).trans h) (start taken) rfl operations

/-- **The metrics read what was done to them.**  After any operations on the metrics of a new process, of
    which any may have failed:

    - the entries are all that was done, since the same actions lead a new registry to the same values and
      answers;
    - no two metrics share an exported name, a name of the daemon belongs to one kind at most, the metric
      that is found under it is the only one with the exported form of its name, and all metrics that
      were there earlier are there, in their order;
    - a flag that was registered reads true just when it was written, and the first write was the only one
      that was told to be the first;
    - a property reads the value that was written first, and again this write was told to be the first, and
      no other;
    - a counter that was registered reads the sum of all amounts, around the end of its 64 bits;
    - an action changes what is found under the kind and the name that it is about, and nothing else. -/
theorem metrics_follow_history (taken : List Net.Endpoint) (operations : List Operation) :
    let registry := ((start taken).operateAll operations).machine.metrics
    let entries := ((start taken).operateAll operations).entries
    Book.empty.acts (entries.map (·.action)) = ⟨registry, entries⟩ ∧
    ((registry.families.map (·.exportName)).Nodup ∧
      (∀ name kind kind', (registry.find? kind name).isSome → (registry.find? kind' name).isSome →
        kind = kind') ∧
      (∀ kind name family, registry.find? kind name = some family →
        family.exportName = exportName name ∧
        registry.families.filter (fun other => other.exportName = exportName name) = [family]) ∧
      (∀ earlier later, operations = earlier ++ later →
        ((start taken).operateAll earlier).machine.metrics.families.map Family.identity <+:
          registry.families.map Family.identity)) ∧
    (∀ name,
      registry.flag? name = (if helpsFor .flag name entries = [] then none
        else some !(flagAnswers name entries).isEmpty) ∧
      onlyFirst (flagAnswers name entries)) ∧
    (∀ name,
      registry.property? name = (propertySets name entries).head?.map (·.1) ∧
      onlyFirst ((propertySets name entries).map (·.2))) ∧
    (∀ name,
      (registry.counter? name).map UInt64.toNat = (if helpsFor .counter name entries = [] then none
        else some (((amounts name entries).map UInt64.toNat).sum % 2 ^ 64))) ∧
    (∀ (action : Action) kind name, action.target ≠ (some kind, name) →
      (action.run registry).2.find? kind name = registry.find? kind name) := by
  intro registry entries
  have hbalanced : Book.Balanced ⟨registry, entries⟩ := balanced_operateAll taken operations
  have hreplayed : Book.IsReplayed ⟨registry, entries⟩ :=
    replayed_operateAll taken operations
  have hsound : registry.Sound := hbalanced.sound
  -- all parts follow from the balance of the book, except that nothing is removed
  refine ⟨hreplayed, ⟨hsound.distinct, fun name kind kind' => hsound.kind_unique, ?_, ?_⟩, ?_, ?_, ?_, ?_⟩
  · intro kind name family hfind
    have hname := hsound.exportName_of_find? hfind
    have hfilter := hsound.filter_exportName (List.mem_of_find?_eq_some hfind)
    rw [hname] at hfilter
    exact ⟨hname, hfilter⟩
  · rintro earlier later rfl
    have hlater := prefix_identity_operateAll ((start taken).operateAll earlier) later
    rwa [← operateAll_append] at hlater
  · exact fun name => ⟨hbalanced.flag? name, hbalanced.flagsOnce name⟩
  · exact fun name => ⟨hbalanced.property? name, hbalanced.propertiesOnce name⟩
  · intro name
    rw [hbalanced.counter? name]
    split
    · rfl
    · exact congrArg some (toNat_sum (amounts name entries))
  · exact fun action kind name hother => action.find?_run registry hother

end History

end Metrics

end RoleDaemon

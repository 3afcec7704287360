import RoleDaemon.Proofs.Environment
import RoleDaemon.Proofs.Metrics.History
import RoleDaemon.Proofs.Metrics.Refusal

/-!
# Attempts to Build an Environment

Building an environment can fail at each of its metrics, and at the endpoint of the pages.  A failed
attempt leaves nothing running, and only metrics behind; and after an attempt, failed or not, no other
one succeeds with the same registry, whatever happens in between.

## Architecture

- `Environment.enrolled_of_error`: a failed attempt has enrolled metrics, and done nothing else
- `Environment.IsSpent`: some metric of the environment is blocked, so that it cannot be built
- `Environment.isSpent_init`, `Environment.isSpent_run`: every attempt leaves the registry so, and so does
  whatever happens then

Main statements:
- `Environment.init_error_leaves`: what a failed attempt leaves
- `Environment.init_succeeds_once`: at most one attempt succeeds
-/

namespace RoleDaemon.Environment

open Metrics Net

variable {identity : Identity} {config : Config} {now : Timestamp} {machine machine' : Machine}

/-! ## §1 Failed Attempts -/

/-- A failed attempt has enrolled metrics, or some of them, and done nothing else. -/
theorem enrolled_of_error {cause : Cause}
    (h : init identity config now machine = (machine', .error cause)) :
    machine' = { machine with
      metrics := (Registry.enroll (enrolments identity config now) machine.metrics).1 } := by
  unfold init at h
  rcases henroll : machine.enroll (enrolments identity config now) with ⟨enrolled, refusal | _⟩
  · have hmachine : (machine.enroll (enrolments identity config now)).1 = machine' := by
      rw [henroll] at h ⊢
      exact congrArg Prod.fst h
    exact hmachine.symm
  · have henrolled : (machine.enroll (enrolments identity config now)).1 = enrolled := by rw [henroll]
    simp only [henroll] at h
    cases henabled : config.webserver.enabled with
    | false => simp [henabled] at h
    | true =>
      -- only the endpoint of the pages is left to fail at, and then nothing more was done
      rw [if_pos henabled] at h
      obtain ⟨refusal, hfailed⟩ | ⟨_, _, _, hserved, -⟩ := startWebServer_cases identity
        ⟨config.webserver.interface, config.webserver.port⟩ now enrolled
      · rw [hfailed] at h
        exact (congrArg Prod.fst h).symm.trans henrolled.symm
      · rw [hserved] at h
        simp at h

/-- The properties of the process. -/
def processPropertyNames : List String :=
  ["recordserviced.service-id", "recordserviced.version", "recordserviced.start-time",
    "recordserviced.hostname"]

theorem map_name_processProperties (identity : Identity) (config : Config) (now : Timestamp) :
    (processProperties identity config now).map (·.family.name) = processPropertyNames := rfl

/-- Only the properties of the process are given a value. -/
theorem mem_processProperties_of_isSome {enrolment : Registry.Enrolment}
    (hmem : enrolment ∈ enrolments identity config now) (hvalue : enrolment.value?.isSome) :
    enrolment ∈ processProperties identity config now := by
  rcases List.mem_append.1 hmem with hproperty | hshared
  · exact hproperty
  · obtain ⟨family, -, rfl⟩ := List.mem_map.1 hshared
    cases hvalue

/-- The metrics of every environment. -/
def families : List Family :=
  (enrolments ⟨""⟩ (.default "") ⟨""⟩).map (·.family)

/-- Environments differ in the values of their metrics alone. -/
theorem map_family_enrolments (identity : Identity) (config : Config) (now : Timestamp) :
    (enrolments identity config now).map (·.family) = families := rfl

theorem family_mem_families {enrolment : Registry.Enrolment}
    (hmem : enrolment ∈ enrolments identity config now) : enrolment.family ∈ families :=
  map_family_enrolments identity config now ▸ List.mem_map_of_mem hmem

/-- There is no flag among them, and their counters start at zero. -/
theorem content_of_mem_families : ∀ family ∈ families,
    family.content ∈ [.counter 0, .property none, .rpcCalls, .rpcErrors, .rpcLatency] := by
  decide

/-- **A failed attempt leaves nothing running.**  Whatever the state of the process was, and for whatever
    reason an environment could not be built:

    - the listeners, the live tasks, the log and the traced calls are what they were;
    - every metric that was there still is, with its names, its help text and its kind, and in its place;
    - no flag has changed, which includes readiness;
    - no counter has changed, but counters may have been added, at zero;
    - a property has changed only if it is one of the process and had no value, and then it has the value
      of the environment that was to be built. -/
theorem init_error_leaves {cause : Cause}
    (h : init identity config now machine = (machine', .error cause)) :
    (machine'.sockets = machine.sockets ∧ machine'.taskLists = machine.taskLists ∧
      machine'.log = machine.log ∧ machine'.metrics.trace = machine.metrics.trace) ∧
    machine.metrics.families.map Family.identity <+: machine'.metrics.families.map Family.identity ∧
    (∀ name, machine'.metrics.flag? name = machine.metrics.flag? name) ∧
    Readiness.snapshot machine'.metrics = Readiness.snapshot machine.metrics ∧
    (∀ name, machine'.metrics.counter? name = machine.metrics.counter? name ∨
      machine.metrics.counter? name = none ∧ machine'.metrics.counter? name = some 0) ∧
    (∀ name, machine'.metrics.property? name = machine.metrics.property? name ∨
      machine.metrics.property? name = none ∧ name ∈ processPropertyNames ∧
        ∃ enrolment ∈ processProperties identity config now, enrolment.family.name = name ∧
          machine'.metrics.property? name = enrolment.value?) := by
  obtain rfl := enrolled_of_error h
  have hextended := Registry.ExtendedBy.enroll
    (Operation.isDeclared_environment identity config now) machine.metrics
  generalize (Registry.enroll (enrolments identity config now) machine.metrics).1 = enrolled at hextended
  have hflags : ∀ name, enrolled.flag? name = machine.metrics.flag? name := by
    intro name
    obtain hsame | ⟨-, enrolment, hmem, hfound⟩ := hextended.found .flag name (by decide)
    · rw [Registry.flag?, hsame, Registry.flag?]
    · -- what was added is no flag
      have hkind := (Registry.isNamed_iff.1 (Registry.isNamed_of_find? hfound)).1
      have hcontent := content_of_mem_families _ (family_mem_families hmem)
      cases hfamily : enrolment.family.content <;> simp_all [Content.kind?]
  refine ⟨⟨rfl, rfl, rfl, hextended.trace⟩, hextended.kept, hflags, ?_, fun name => ?_, fun name => ?_⟩
  · simp only [Readiness.snapshot, Readiness.isRoleReady, Readiness.isServerReady, hflags]
  · obtain hsame | ⟨hnone, enrolment, hmem, hfound⟩ := hextended.found .counter name (by decide)
    · exact .inl (by rw [Registry.counter?, hsame, Registry.counter?])
    · right
      have hkind := (Registry.isNamed_iff.1 (Registry.isNamed_of_find? hfound)).1
      have hcontent := content_of_mem_families _ (family_mem_families hmem)
      rw [Registry.counter?, Registry.counter?, hnone, hfound]
      cases hfamily : enrolment.family.content <;> simp_all [Content.kind?]
  · obtain hsame | ⟨hnone, enrolment, hmem, rfl, hsome, hvalue⟩ := hextended.valued name
    · exact .inl hsame
    · have hprocess := mem_processProperties_of_isSome hmem hsome
      refine .inr ⟨hnone, ?_, enrolment, hprocess, rfl, hvalue⟩
      exact map_name_processProperties identity config now ▸ List.mem_map_of_mem hprocess

/-- A process that listens at an endpoint, with a flag that is set, and with a counter whose exported name
    is that of the version of the process. -/
def versioned : Machine :=
  { Machine.fresh [⟨.v4 .unspecified, 11050⟩] with
    metrics := ⟨[⟨"ready", "ready", "Ready", .flag true⟩,
      ⟨"recordserviced-version", "recordserviced_version", "Versions", .counter 3⟩], .empty⟩ }

/-- The attempt fails at its second property.  The flag and the counter read what they read, and
    only properties of the process have got a value. -/
theorem init_error_leaves_versioned :
    let attempt := init ⟨"recordserviced@node-1:12050"⟩ (.default "node-1") ⟨"2026-01-01T00:00:00"⟩
      versioned
    attempt = (attempt.1, .error ⟨"Failed to register metric recordserviced.version",
      ["Duplicate metrics collector registration attempted"]⟩) ∧
    attempt.1.sockets.listening = [⟨.v4 .unspecified, 11050⟩] ∧ attempt.1.taskLists = [] ∧
    attempt.1.metrics.flag? "ready" = some true ∧
    attempt.1.metrics.counter? "recordserviced-version" = some 3 ∧
    ∀ name, attempt.1.metrics.property? name ≠ none → name ∈ processPropertyNames := by
  intro attempt
  have hfailed : attempt.2 = .error ⟨"Failed to register metric recordserviced.version",
      ["Duplicate metrics collector registration attempted"]⟩ := by decide +kernel
  have hattempt : attempt = (attempt.1, .error ⟨"Failed to register metric recordserviced.version",
      ["Duplicate metrics collector registration attempted"]⟩) := by rw [← hfailed]
  have hread : versioned.metrics.flag? "ready" = some true ∧
      versioned.metrics.counter? "recordserviced-version" = some 3 := by decide
  obtain ⟨hready, hversions⟩ := hread
  have hnone : ∀ name, versioned.metrics.property? name = none := fun _ => rfl
  obtain ⟨⟨hsockets, htasks, -⟩, -, hflags, -, hcounters, hproperties⟩ := init_error_leaves hattempt
  refine ⟨hattempt, congrArg Sockets.listening hsockets, htasks, (hflags _).trans hready, ?_,
    fun name hvalued => ?_⟩
  · obtain hsame | ⟨hmissing, -⟩ := hcounters "recordserviced-version"
    · exact hsame.trans hversions
    · rw [hversions] at hmissing
      cases hmissing
  · obtain hsame | ⟨-, hname, -⟩ := hproperties name
    · exact absurd (hsame.trans (hnone name)) hvalued
    · exact hname

/-! ## §2 Attempts after an Attempt -/

theorem descriptionFault?_of_mem_families :
    ∀ family ∈ families, Registry.descriptionFault? family = none := by
  decide +kernel

/-- Some metric of the environment is blocked, so that no environment can be built. -/
def IsSpent (machine : Machine) : Prop :=
  ∃ family ∈ families, machine.metrics.blocks family

/-- An attempt with a spent registry fails. -/
theorem IsSpent.init_error (h : IsSpent machine) (identity : Identity) (config : Config)
    (now : Timestamp) : ∃ cause, (init identity config now machine).2 = .error cause := by
  obtain ⟨family, hfamily, hblocked⟩ := h
  obtain ⟨enrolment, hmem, rfl⟩ :=
    List.mem_map.1 (map_family_enrolments identity config now ▸ hfamily)
  obtain ⟨cause, herror⟩ := Registry.enroll_of_blocks
    (Operation.isDeclared_environment identity config now) hmem hblocked
  have hresult : (machine.enroll (enrolments identity config now)).2 = .error cause := herror
  refine ⟨cause, ?_⟩
  unfold init
  rcases henroll : machine.enroll (enrolments identity config now) with ⟨enrolled, refusal | _⟩
  · rw [henroll] at hresult
    exact congrArg Except.error (Except.error.inj hresult)
  · rw [henroll] at hresult
    cases hresult

theorem isWellNamed_of_mem_families {family : Family} (hfamily : family ∈ families) :
    family.isWellNamed := by
  obtain ⟨enrolment, hmem, rfl⟩ := List.mem_map.1 hfamily
  exact Family.isWellNamed_of_isDeclared (Operation.isDeclared_environment _ _ _ enrolment hmem)

/-- What blocks a metric of the environment is not undone by any action. -/
theorem blocks_act {family : Family} (hfamily : family ∈ families) (book : Book) (action : Action)
    (h : book.registry.blocks family) : (book.act action).registry.blocks family := by
  unfold Book.act
  split
  · rename_i hpossible
    apply Registry.blocks_run (isWellNamed_of_mem_families hfamily) h action
    rintro other rfl
    exact hpossible
  · exact h

/-- What can come up between two attempts: an operation on the metrics, which includes another attempt,
    or any change of all else: the listeners, the live tasks, the log and the traced calls. -/
inductive Event where
  | operate (operation : Operation)
  | elsewhere (sockets : Sockets) (taskLists : List TaskRegistry) (log : List Log.Event)
    (trace : Rpc.Trace)

namespace Event

def run (machine : Machine) : Event → Machine
  | operate operation => operation.run machine
  | elsewhere sockets taskLists log trace =>
    ⟨sockets, { machine.metrics with trace }, taskLists, log⟩

def runAll (machine : Machine) (events : List Event) : Machine :=
  events.foldl run machine

/-- The event is an attempt to build an environment, and succeeds. -/
def succeeds (machine : Machine) : Event → Bool
  | operate (.environment identity config now) =>
    (Environment.init identity config now machine).2.isOk
  | _ => false

/-- The number of attempts that succeed. -/
def successes (machine : Machine) : List Event → Nat
  | [] => 0
  | event :: events => (event.succeeds machine).toNat + successes (event.run machine) events

end Event

/-- Whatever happens, a spent registry stays so. -/
theorem IsSpent.run (h : IsSpent machine) (event : Event) : IsSpent (event.run machine) := by
  obtain ⟨family, hfamily, hblocked⟩ := h
  refine ⟨family, hfamily, ?_⟩
  cases event with
  | operate operation =>
    have hstart : (⟨machine.metrics, []⟩ : Book).registry.blocks family := hblocked
    have hacts := Book.acts_keep (P := fun book => book.registry.blocks family)
      (blocks_act hfamily) hstart (operation.actions machine)
    rwa [operation.registry_acts] at hacts
  | elsewhere sockets taskLists log trace => exact hblocked

theorem IsSpent.runAll (h : IsSpent machine) (events : List Event) :
    IsSpent (Event.runAll machine events) := by
  induction events generalizing machine with
  | nil => exact h
  | cons event events ih => exact ih (h.run event)

/-- Every attempt spends the registry: the metric that it failed at is blocked, and where none was, the
    series of the trace are. -/
theorem isSpent_init (identity : Identity) (config : Config) (now : Timestamp) (machine : Machine) :
    IsSpent (init identity config now machine).1 := by
  obtain ⟨enrolment, hmem, hblocked⟩ := Registry.exists_blocks_enroll
    (Operation.isDeclared_environment identity config now)
    (fun enrolment hmem => descriptionFault?_of_mem_families _ (family_mem_families hmem))
    ⟨⟨.rpcCalls, none⟩, by simp [enrolments, sharedFamilies, Registry.traceFamilies], rfl⟩
    machine.metrics
  have hfamily := family_mem_families hmem
  refine ⟨enrolment.family, hfamily, ?_⟩
  rw [Operation.metrics_init]
  -- at most the task of the pages was counted in addition
  split
  · exact Registry.blocks_run (isWellNamed_of_mem_families hfamily) hblocked
      (.increment Machine.tasksCreated 1) (by simp)
  · exact hblocked

/-- With a spent registry no attempt succeeds. -/
theorem IsSpent.successes_eq_zero (h : IsSpent machine) (events : List Event) :
    Event.successes machine events = 0 := by
  induction events generalizing machine with
  | nil => rfl
  | cons event events ih =>
    have hfails : event.succeeds machine = false := by
      unfold Event.succeeds
      split
      · rename_i identity config now
        obtain ⟨cause, herror⟩ := h.init_error identity config now
        rw [herror]
        rfl
      · rfl
    rw [Event.successes, hfails, ih (h.run event)]
    rfl

/-- An attempt that succeeds spends the registry. -/
theorem isSpent_of_succeeds {event : Event} (h : event.succeeds machine) :
    IsSpent (event.run machine) := by
  unfold Event.succeeds at h
  split at h
  · exact isSpent_init _ _ _ machine
  · cases h

/-- **An environment is built once.**  Whatever the state of the process is, and whatever an attempt to
    build an environment comes to, every later attempt with the same registry fails, for any identity and
    any configuration, and whatever happens in between.  Hence among all that ever happens one attempt
    succeeds at most. -/
theorem init_succeeds_once (machine : Machine) :
    (∀ identity config now between identity' config' now', ∃ cause,
      (init identity' config' now'
        (Event.runAll (init identity config now machine).1 between)).2 = .error cause) ∧
    ∀ events, Event.successes machine events ≤ 1 := by
  constructor
  · intro identity config now between identity' config' now'
    have hspent := (isSpent_init identity config now machine).runAll between
    exact hspent.init_error identity' config' now'
  · intro events
    induction events generalizing machine with
    | nil => exact Nat.zero_le 1
    | cons event events ih =>
      rw [Event.successes]
      cases hsucceeds : event.succeeds machine with
      | false => simpa using ih (event.run machine)
      | true => simp [(isSpent_of_succeeds hsucceeds).successes_eq_zero events]

end RoleDaemon.Environment

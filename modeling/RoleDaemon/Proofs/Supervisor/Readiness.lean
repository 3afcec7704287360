import RoleDaemon.Proofs.Subsystem.Run
import RoleDaemon.Proofs.Supervisor.Run

/-!
# Readiness Is Never Published Too Early

At every moment of every run, whatever fails on the way, a flag tells the truth: a role is published
only after its service has started, the daemon only after all of its roles, and no flag is ever cleared.

## Architecture

Both halves of the invariant speak about deeds, and each operation of a run keeps them:
- `FlagsFollow`: a flag is set just when its publication was done
- `Permitted`: what has to be done before a publication, or before the daemon runs

Main statements:
- `Sound.leads`: operations that publish nothing keep the invariant
- `Sound.startAll`, `Sound.runServices`: starting and publishing services keeps it
- `Supervisor.run_publishes_truly`: what the flags say, at every moment of every run
-/

namespace RoleDaemon

open Metrics Readiness

/-! ## §1 Flags and Deeds -/

/-- The flags read what was published: each one is set just when this was done. -/
structure FlagsFollow (deeds : List Deed) (metrics : Registry) : Prop where
  role : ∀ role, metrics.flag? (roleFlag role) = some (decide (Deed.roleMarked role ∈ deeds))
  server : metrics.flag? serverFlag = some (decide (Deed.serverMarked ∈ deeds))

namespace FlagsFollow

variable {deeds : List Deed} {metrics : Registry}

theorem of_unset (h : Unset metrics) : FlagsFollow [] metrics :=
  ⟨fun role => by simp [h.role role], by simp [h.server]⟩

theorem isRoleReady_iff (h : FlagsFollow deeds metrics) (role : Role) :
    isRoleReady metrics role ↔ .roleMarked role ∈ deeds := by
  simp [isRoleReady, h.role role]

theorem isServerReady_iff (h : FlagsFollow deeds metrics) :
    isServerReady metrics ↔ .serverMarked ∈ deeds := by
  simp [isServerReady, h.server]

/-- Whatever keeps the flags and publishes nothing. -/
theorem keep (h : FlagsFollow deeds metrics) {metrics' : Registry}
    (hkept : metrics.KeepsFlags metrics') {more : List Deed}
    (hrole : ∀ role, .roleMarked role ∉ more) (hserver : .serverMarked ∉ more) :
    FlagsFollow (deeds ++ more) metrics' := by
  constructor
  · intro role
    simpa [hrole role] using hkept _ _ (h.role role)
  · simpa [hserver] using hkept _ _ h.server

theorem markRole {machine : Machine} (h : FlagsFollow deeds machine.metrics) (role : Role) :
    FlagsFollow (deeds ++ [.roleMarked role]) (markRole machine role).metrics := by
  constructor
  · intro other
    rw [flag?_markRole, h.role other]
    by_cases heq : other = role
    · subst heq
      simp
    · have hflag : roleFlag other ≠ roleFlag role := fun hflag => heq (roleFlag_injective hflag)
      simp [hflag, heq]
  · rw [flag?_markRole, if_neg (roleFlag_ne_serverFlag role).symm, h.server]
    simp

theorem markServer (h : FlagsFollow deeds metrics) :
    FlagsFollow (deeds ++ [.serverMarked]) (metrics.setFlag serverFlag).2 := by
  constructor
  · intro role
    rw [Registry.flag?_setFlag, if_neg (roleFlag_ne_serverFlag role), h.role role]
    simp
  · rw [Registry.flag?_setFlag, if_pos rfl, h.server]
    simp

end FlagsFollow

/-! ## §2 The Invariant of a Course -/

/-- What has to be done before a deed: the service of an enabled role starts before the role is
    published, all enabled roles are published before the daemon, and the daemon before it runs. -/
def Permitted (services : List (Role × UInt16)) (past : List Deed) : Deed → Prop
  | .roleMarked role => role ∈ services.map Prod.fst ∧ .started role true ∈ past
  | .serverMarked => ∀ service ∈ services, .roleMarked service.1 ∈ past
  | .entered .running => .serverMarked ∈ past
  | _ => True

/-- Each of the moments is permitted after the deeds before it, and the flags follow the deeds. -/
def Orderly (services : List (Role × UInt16)) (past : List Deed) : List Moment → Prop
  | [] => True
  | moment :: later =>
    Permitted services past moment.deed ∧
      FlagsFollow (past ++ [moment.deed]) moment.machine.metrics ∧
      Orderly services (past ++ [moment.deed]) later

/-- Nothing is published by the deed, and the daemon does not begin to run by it. -/
def Deed.isQuiet : Deed → Bool
  | .roleMarked _ | .serverMarked | .entered .running => false
  | _ => true

variable {services : List (Role × UInt16)} {past : List Deed}

theorem Permitted.of_isQuiet {deed : Deed} (h : deed.isQuiet) : Permitted services past deed := by
  unfold Permitted
  split
  · cases h
  · cases h
  · cases h
  · trivial

theorem FlagsFollow.keep_of_isQuiet {metrics metrics' : Registry} (h : FlagsFollow past metrics)
    (hkept : metrics.KeepsFlags metrics') {deed : Deed} (hquiet : deed.isQuiet) :
    FlagsFollow (past ++ [deed]) metrics' := by
  apply h.keep hkept
  · intro role hmem
    obtain rfl := List.mem_singleton.1 hmem
    cases hquiet
  · intro hmem
    obtain rfl := List.mem_singleton.1 hmem
    cases hquiet

theorem orderly_append (first second : List Moment) :
    Orderly services past (first ++ second) ↔
      Orderly services past first ∧ Orderly services (past ++ first.map (·.deed)) second := by
  induction first generalizing past with
  | nil => simp [Orderly]
  | cons moment first ih =>
    simp only [List.cons_append, Orderly, ih, and_assoc, List.map_cons, List.append_assoc,
      List.nil_append]

/-- What the invariant says about a single moment. -/
theorem Orderly.split {moments : List Moment} (h : Orderly services [] moments)
    {before after : List Moment} {moment : Moment} (hmoments : moments = before ++ moment :: after) :
    Permitted services (before.map (·.deed)) moment.deed ∧
      FlagsFollow (before.map (·.deed) ++ [moment.deed]) moment.machine.metrics ∧
      Orderly services [] before := by
  rw [hmoments, orderly_append, List.nil_append] at h
  exact ⟨h.2.1, h.2.2.1, h.1⟩

theorem Permitted.mono {past' : List Deed} {deed : Deed} (h : Permitted services past deed)
    (hmore : ∀ earlier ∈ past, earlier ∈ past') : Permitted services past' deed := by
  unfold Permitted at h ⊢
  split at h
  · exact ⟨h.1, hmore _ h.2⟩
  · exact fun service hservice => hmore _ (h service hservice)
  · exact hmore _ h
  · trivial

/-- Whatever was done up to a moment was permitted by what was done before this moment. -/
theorem Orderly.permitted {before after : List Moment} {moment : Moment}
    (h : Orderly services [] (before ++ moment :: after)) {deed : Deed}
    (hdeed : deed ∈ before.map (·.deed) ++ [moment.deed]) :
    Permitted services (before.map (·.deed)) deed := by
  obtain ⟨hmoment, -, hbefore⟩ := h.split rfl
  rcases List.mem_append.1 hdeed with hmem | hlast
  · -- what permitted an earlier deed was done before this moment as well
    obtain ⟨earlier, hearlier, rfl⟩ := List.mem_map.1 hmem
    obtain ⟨first, second, rfl⟩ := List.append_of_mem hearlier
    refine (hbefore.split rfl).1.mono fun deed hdeed => ?_
    simp only [List.map_append, List.mem_append]
    exact .inl hdeed
  · rw [List.mem_singleton.1 hlast]
    exact hmoment

section Ready

/-! What is ready is the reading of a flag, which follows a publication. -/

variable {ready : Registry → Prop} {publication : Deed}

/-- What is ready stays ready. -/
theorem Orderly.stays {before after : List Moment} {moment later : Moment}
    (hready : ∀ past metrics, FlagsFollow past metrics → (ready metrics ↔ publication ∈ past))
    (h : Orderly services [] (before ++ moment :: after)) (hlater : later ∈ after)
    (hnow : ready moment.machine.metrics) : ready later.machine.metrics := by
  obtain ⟨first, second, rfl⟩ := List.append_of_mem hlater
  have hmoment := (h.split rfl).2.1
  have hmoments : before ++ moment :: (first ++ later :: second) =
      (before ++ moment :: first) ++ later :: second := by simp
  have hfollows := (h.split hmoments).2.1
  -- it was published by now, and so it was at the later moment
  rw [hready _ _ hmoment] at hnow
  rw [hready _ _ hfollows]
  simp only [List.map_append, List.map_cons, List.mem_append, List.mem_cons] at hnow ⊢
  rcases hnow with hbefore | hthen
  · exact .inl (.inl hbefore)
  · exact .inl (.inr (.inl (by simpa using hthen)))

/-- Something is ready at some moment just when it was published. -/
theorem Orderly.exists_ready_iff {moments : List Moment}
    (hready : ∀ past metrics, FlagsFollow past metrics → (ready metrics ↔ publication ∈ past))
    (h : Orderly services [] moments) :
    (∃ moment ∈ moments, ready moment.machine.metrics) ↔ publication ∈ moments.map (·.deed) := by
  constructor
  · rintro ⟨moment, hmoment, hnow⟩
    obtain ⟨before, after, rfl⟩ := List.append_of_mem hmoment
    rw [hready _ _ (h.split rfl).2.1] at hnow
    simp only [List.map_append, List.map_cons, List.mem_append, List.mem_cons] at hnow ⊢
    rcases hnow with hbefore | hthen
    · exact .inl hbefore
    · exact .inr (.inl (by simpa using hthen))
  · intro hpublished
    obtain ⟨moment, hmoment, hdeed⟩ := List.mem_map.1 hpublished
    obtain ⟨before, after, rfl⟩ := List.append_of_mem hmoment
    refine ⟨moment, hmoment, (hready _ _ (h.split rfl).2.1).2 ?_⟩
    simp [hdeed]

end Ready

/-- Moments that publish nothing are orderly. -/
theorem orderly_of_isQuiet {metrics : Registry} (h : FlagsFollow past metrics) {moments : List Moment}
    (hquiet : ∀ moment ∈ moments, moment.deed.isQuiet ∧
      metrics.KeepsFlags moment.machine.metrics) :
    Orderly services past moments := by
  induction moments generalizing past with
  | nil => trivial
  | cons moment moments ih =>
    obtain ⟨hdeed, hkept⟩ := hquiet moment (List.mem_cons_self ..)
    refine ⟨.of_isQuiet hdeed, h.keep_of_isQuiet hkept hdeed, ?_⟩
    exact ih (h.keep_of_isQuiet (Registry.KeepsFlags.refl _) hdeed)
      fun moment hmoment => hquiet moment (List.mem_cons_of_mem _ hmoment)

/-- The invariant: all moments so far are orderly, and the flags follow what was done. -/
structure Sound (services : List (Role × UInt16)) (course : Course) : Prop where
  orderly : Orderly services [] course.moments
  follows : FlagsFollow course.deeds course.machine.metrics

namespace Sound

variable {course : Course}

/-- One more moment. -/
theorem act (h : Sound services course) {deed : Deed} {machine : Machine}
    (hpermitted : Permitted services course.deeds deed)
    (hfollows : FlagsFollow (course.deeds ++ [deed]) machine.metrics) :
    Sound services (course.act deed machine) := by
  constructor
  · have hlast : Orderly services ([] ++ course.moments.map (·.deed)) [⟨deed, machine⟩] :=
      ⟨hpermitted, hfollows, trivial⟩
    exact (orderly_append course.moments _).2 ⟨h.orderly, hlast⟩
  · rw [Course.deeds_act]
    exact hfollows

/-- Operations that publish nothing keep the invariant. -/
theorem leads (h : Sound services course) {kind : Deed → Prop} {after : Course}
    (hleads : Course.Leads kind course after) (hkind : ∀ deed, kind deed → deed.isQuiet) :
    Sound services after := by
  obtain ⟨moments, hmoments, hquiet, hkept⟩ := hleads
  have hdeeds : after.deeds = course.deeds ++ moments.map (·.deed) := by
    simp [Course.deeds, hmoments]
  have hmore : ∀ deed ∈ moments.map (·.deed), deed.isQuiet := by
    intro deed hdeed
    obtain ⟨moment, hmoment, rfl⟩ := List.mem_map.1 hdeed
    exact hkind _ (hquiet moment hmoment).1
  constructor
  · rw [hmoments, orderly_append]
    refine ⟨h.orderly, ?_⟩
    exact orderly_of_isQuiet h.follows fun moment hmoment =>
      ⟨hkind _ (hquiet moment hmoment).1, (hquiet moment hmoment).2⟩
  · rw [hdeeds]
    refine h.follows.keep hkept (fun role hmem => ?_) (fun hmem => ?_)
    · exact absurd (hmore _ hmem) (by simp [Deed.isQuiet])
    · exact absurd (hmore _ hmem) (by simp [Deed.isQuiet])

theorem quiet (h : Sound services course) {deed : Deed} {machine : Machine} (hdeed : deed.isQuiet)
    (hkept : course.machine.metrics.KeepsFlags machine.metrics) :
    Sound services (course.act deed machine) :=
  h.act (.of_isQuiet hdeed) (h.follows.keep_of_isQuiet hkept hdeed)

theorem report (h : Sound services course) (event : Log.Event) :
    Sound services (course.report event) :=
  h.quiet (by rfl) (Registry.KeepsFlags.refl _)

theorem keep (h : Sound services course) (handles : List Handle) :
    Sound services (course.keep handles) :=
  ⟨h.orderly, h.follows⟩

theorem within (h : Sound services course) (environment : Environment) :
    Sound services (course.within environment) :=
  ⟨h.orderly, h.follows⟩

/-- Entering any state but the one in which the daemon runs. -/
theorem enter (h : Sound services course) (next : Lifecycle) (hnext : next ≠ .running) :
    Sound services (course.enter next) := by
  have hquiet : (Deed.entered next).isQuiet := by
    cases next <;> first | rfl | exact absurd rfl hnext
  have hacted : Sound services (course.act (.entered next)
      (course.machine.report (.stateChanged course.lifecycle next))) :=
    h.quiet hquiet (Registry.KeepsFlags.refl _)
  exact ⟨hacted.orderly, hacted.follows⟩

theorem leave (h : Sound services course) (environment : Environment) :
    Sound services (course.leave environment) := by
  have hacted : Sound services
      (course.act .environmentShutDown (environment.shutdown course.machine).2) := by
    refine h.quiet (by rfl) ?_
    rw [Environment.shutdown_metrics]
    exact Registry.KeepsFlags.refl _
  exact hacted.within _

/-- The daemon is published once all enabled roles are. -/
theorem markServer (h : Sound services course)
    (hall : ∀ service ∈ services, .roleMarked service.1 ∈ course.deeds) :
    Sound services (course.act .serverMarked { course.machine with
      metrics := (course.machine.metrics.setFlag serverFlag).2 }) :=
  h.act hall h.follows.markServer

/-- The daemon begins to run once it was published. -/
theorem enter_running (h : Sound services course) (hmarked : .serverMarked ∈ course.deeds) :
    Sound services (course.enter .running) := by
  have hacted : Sound services (course.act (.entered .running)
      (course.machine.report (.stateChanged course.lifecycle .running))) := by
    refine h.act hmarked (h.follows.keep (Registry.KeepsFlags.refl _) ?_ ?_)
    · simp
    · simp
  exact ⟨hacted.orderly, hacted.follows⟩

end Sound

/-! ## §3 The Parts of a Run -/

namespace Supervisor

variable {supervisor : Supervisor} {course : Course}

theorem isQuiet_of_isBinding {deed : Deed} (h : deed.isBinding) : deed.isQuiet := by
  cases deed <;> first | rfl | cases h

theorem isQuiet_of_isIdle {deed : Deed} (h : deed.isIdle) : deed.isQuiet := by
  cases deed <;> first | rfl | cases h

/-- A service that has started is published. -/
theorem sound_publish (h : Sound services course) {handle : Handle}
    (henabled : handle.role ∈ services.map Prod.fst)
    (hstarted : .started handle.role true ∈ course.deeds) :
    Sound services (publish course handle) := by
  have hmarked : Sound services (course.act (.roleMarked handle.role)
      (Readiness.markRole course.machine handle.role)) :=
    h.act ⟨henabled, hstarted⟩ (h.follows.markRole handle.role)
  exact hmarked.report _

/-- Starting enabled services keeps the invariant; when all of them start, all are published. -/
theorem sound_startAll (now : Timestamp) (tasks : Nat) (bound : List (Role × Binding))
    (henabled : ∀ service ∈ bound, service.1 ∈ services.map Prod.fst) (h : Sound services course)
    (started : List Handle) :
    let begun := startAll now course started (bound.map (Handle.ofService tasks))
    Sound services begun.1 ∧ (∀ deed ∈ course.deeds, deed ∈ begun.1.deeds) ∧
      (begun.2.2 = .ok () → ∀ service ∈ bound, .roleMarked service.1 ∈ begun.1.deeds) ∧
      ∀ error, begun.2.2 = .error error → ∃ role cause, error = .serviceStart role cause := by
  induction bound generalizing course started with
  | nil => exact ⟨h, fun _ h => h, by simp, by simp [startAll]⟩
  | cons service bound ih =>
    have hcons := startAll_cons now course started tasks service (bound.map (Handle.ofService tasks))
    simp only [List.map_cons]
    cases hfault : service.2.seat.startFault? service.1 course.machine.sockets with
    | some cause =>
      -- the start has failed, and nothing is published for it
      simp only [hfault] at hcons
      rw [hcons]
      refine ⟨h.quiet (by rfl) (Registry.KeepsFlags.refl _), ?_, by simp, ?_⟩
      · intro deed hdeed
        simp [hdeed]
      · rintro error ⟨rfl⟩
        exact ⟨_, _, rfl⟩
    | none =>
      simp only [hfault] at hcons
      obtain ⟨state, machine, -, -, hkept, hnext⟩ := hcons
      have hstarted : Sound services (course.act (.started service.1 true) machine) :=
        h.quiet (by rfl) hkept
      -- the role is published right after its service has started
      have hpublished : Sound services (publish (course.act (.started service.1 true) machine)
          (.ofRunning tasks service state)) :=
        sound_publish hstarted (henabled service (List.mem_cons_self ..)) (by simp)
      rw [hnext]
      obtain ⟨hsound, hmore, hall, herror⟩ := ih (fun service hservice =>
        henabled service (List.mem_cons_of_mem _ hservice)) hpublished
        (.ofRunning tasks service state :: started)
      refine ⟨hsound, fun deed hdeed => hmore deed (by simp [hdeed]), ?_, herror⟩
      intro hok service' hservice'
      rcases List.mem_cons.1 hservice' with rfl | hrest
      · exact hmore _ (by simp)
      · exact hall hok service' hrest

theorem sound_giveUp (h : Sound services course) (handles : List Handle) (error : BootstrapError) :
    Sound services (giveUp course handles error).1 :=
  h.leads (giveUp_spec course handles error).1 fun _ => isQuiet_of_isIdle

/-- The failure that the wait comes to is one of a service. -/
theorem serviceFailed_of_result? {handles : List Handle} {happenings : List Happening}
    {error : BootstrapError}
    (h : ((Join.begin course handles).run happenings).result? = some (.error error)) :
    ∃ role cause, error = .serviceFailed role cause := by
  -- the failure that was kept is the error of an end
  obtain ⟨since, htrail⟩ :=
    (Join.Trail.begin course handles).run (Join.Drains.begin course handles) happenings
  have hfirst := ((Join.result?_eq_error_iff _ error).1 h).2
  rw [htrail.first] at hfirst
  obtain ⟨ending, -, hending⟩ := List.exists_of_findSome?_eq_some hfirst
  obtain ⟨fault, -, rfl⟩ := Ending.error?_eq_some_iff.1 hending
  exact ⟨_, _, rfl⟩

/-- Waiting for the services keeps the invariant. -/
theorem sound_waitForServices (h : Sound services course) (hmarked : .serverMarked ∈ course.deeds)
    (handles : List Handle) :
    Sound services (supervisor.waitForServices course handles).1 ∧
      ∀ cause, (supervisor.waitForServices course handles).2 ≠ .failed (.readiness cause) := by
  have hblocked : Sound services (blocked course) :=
    ((h.enter_running hmarked).report _).enter .blocked (by decide)
  have hwaited := hblocked.leads (Join.leadsIdle_run (Join.begin (blocked course) handles)
    supervisor.happenings) fun _ => isQuiet_of_isIdle
  obtain ⟨-, hwait⟩ | ⟨result, hresult, hwait⟩ := supervisor.waitForServices_cases course handles
  · rw [hwait]
    exact ⟨hwaited.keep _, by simp [Result.failed]⟩
  · rw [hwait]
    refine ⟨((hwaited.keep _).enter .terminated (by decide)).report _, ?_⟩
    · rintro cause ⟨rfl⟩
      obtain ⟨role, cause', herror⟩ := serviceFailed_of_result? hresult
      cases herror

/-- When all enabled services were started, each of them was published, and the daemon can be. -/
theorem markServer_of_startAll (h : Sound services course) (now : Timestamp) (tasks : Nat)
    {bound : List (Role × Binding)} (hbound : bound.map Prod.fst = services.map Prod.fst)
    {roles : EnabledRoles} (hroles : roles.toList = services) :
    let begun := startAll now course [] (bound.map (Handle.ofService tasks))
    begun.2.2 = .ok () →
      (∀ service ∈ services, .roleMarked service.1 ∈ begun.1.deeds) ∧
      Readiness.markServer begun.1.machine roles = .ok { begun.1.machine with
        metrics := (begun.1.machine.metrics.setFlag serverFlag).2 } := by
  intro begun hok
  have henabled : ∀ service ∈ bound, service.1 ∈ services.map Prod.fst := fun service hservice =>
    hbound ▸ List.mem_map_of_mem hservice
  obtain ⟨hsound, -, hmarked, -⟩ := sound_startAll now tasks bound henabled h []
  have hall : ∀ service ∈ services, .roleMarked service.1 ∈ begun.1.deeds := by
    intro service hservice
    have hmem : service.1 ∈ bound.map Prod.fst := hbound ▸ List.mem_map_of_mem hservice
    obtain ⟨service', hservice', heq⟩ := List.mem_map.1 hmem
    exact heq ▸ hmarked hok service' hservice'
  refine ⟨hall, markServer_of_ready fun service hservice => ?_⟩
  exact (hsound.follows.isRoleReady_iff service.1).2 (hall service (hroles ▸ hservice))

/-- The failure that binding comes to is one of a service. -/
theorem serviceStart_of_bindError? {transport : Transport} {services : List (Role × UInt16)}
    {error : BootstrapError} (h : services.findSome? transport.bindError? = some error) :
    ∃ role cause, error = .serviceStart role cause := by
  obtain ⟨service, -, hservice⟩ := List.exists_of_findSome?_eq_some h
  unfold Transport.bindError? at hservice
  split at hservice
  · cases hservice
    exact ⟨_, _, rfl⟩
  · cases hservice

/-- The part of a run that has services keeps the invariant, and publishing does not fail. -/
theorem sound_runServices (supervisor : Supervisor) (h : Sound services course)
    {roles : EnabledRoles} (hroles : roles.toList = services) (environment : Environment) :
    Sound services (supervisor.runServices roles environment course).1 ∧
      ∀ cause, (supervisor.runServices roles environment course).2 ≠ .failed (.readiness cause) := by
  subst hroles
  have hcreated : Sound roles.toList (course.act .serviceCreated course.machine) :=
    h.quiet (by rfl) (Registry.KeepsFlags.refl _)
  obtain ⟨hleads, -, hresult⟩ := Course.activate_spec supervisor.transport environment.tasks
    (course.act .serviceCreated course.machine) roles.toList
  have hactivated := hcreated.leads hleads fun _ => isQuiet_of_isBinding
  obtain ⟨error, herror, hrun⟩ | ⟨handles, hhandles, hrun⟩ :=
    supervisor.runServices_cases roles environment course
  · -- some service cannot be bound
    rw [hrun]
    refine ⟨hactivated, ?_⟩
    rintro cause ⟨rfl⟩
    rw [hresult] at herror
    split at herror
    · rename_i error' hfault
      obtain ⟨role, cause', rfl⟩ := serviceStart_of_bindError? hfault
      cases herror
    · cases herror
  · rw [hresult] at hhandles
    split at hhandles
    · cases hhandles
    · rename_i hnone
      cases hhandles
      have hbound := Transport.map_fst_bound hnone
      have hstarting : Sound roles.toList (starting _) :=
        (hactivated.enter .servicesCreated (by decide)).enter .starting (by decide)
      obtain ⟨hbegun, -, -, hstart⟩ := sound_startAll supervisor.now environment.tasks
        (supervisor.transport.bound roles.toList)
        (fun service hservice => hbound ▸ List.mem_map_of_mem hservice) hstarting []
      have hpublish := markServer_of_startAll hstarting supervisor.now environment.tasks hbound rfl
      obtain ⟨error, herror, hrun⟩ | ⟨hok, cause, hmark, -⟩ | ⟨hok, machine, hmark, hrun⟩ := hrun
      · rw [hrun]
        refine ⟨sound_giveUp hbegun _ error, fun cause hfailed => ?_⟩
        obtain ⟨role, cause', rfl⟩ := hstart error herror
        rw [(giveUp_spec _ _ _).2] at hfailed
        unfold Result.gaveUp at hfailed
        split at hfailed <;> cases hfailed
      · -- every enabled role was published, so that nothing is missing
        rw [(hpublish hok).2] at hmark
        cases hmark
      · obtain ⟨hall, hmarked⟩ := hpublish hok
        rw [hmarked] at hmark
        cases hmark
        rw [hrun]
        exact sound_waitForServices (hbegun.markServer hall) (by simp) _

/-! ## §4 Whole Runs -/

/-- Building the environment keeps the invariant, whether it succeeds or not. -/
theorem sound_environmentBuilt (h : Sound services course) (identity : Identity) (config : Config)
    (now : Timestamp) (succeeded : Bool) :
    let named := course.report (.identityGenerated identity)
    Sound services (named.act (.environmentBuilt succeeded)
      (Environment.init identity config now named.machine).1) :=
  (h.report _).quiet (by rfl) (Environment.keepsFlags_init _ _ _ _)

/-- The part of a run behind the subsystem bootstrap keeps the invariant. -/
theorem sound_runRoles (h : Sound services course) {roles : EnabledRoles}
    (hroles : roles.toList = services) :
    Sound services (supervisor.runRoles roles course).1 ∧
      ∀ cause, (supervisor.runRoles roles course).2 ≠ .failed (.readiness cause) := by
  have hbuilt := sound_environmentBuilt h
    (Identity.generate supervisor.config.hostname roles.primaryPort) supervisor.config supervisor.now
  obtain ⟨cause, -, hrun⟩ | ⟨environment, -, hrun⟩ := supervisor.runRoles_cases roles course
  · rw [hrun]
    exact ⟨hbuilt false, by simp [Result.failed]⟩
  · obtain ⟨hserved, hresult⟩ :=
      sound_runServices supervisor ((hbuilt true).within environment) hroles environment
    obtain ⟨-, hrun⟩ | ⟨-, hrun⟩ := hrun
    · rw [hrun]
      exact ⟨hserved.leave environment, hresult⟩
    · rw [hrun]
      exact ⟨hserved, hresult⟩

/-- The failure that the subsystem bootstrap comes to is one of a step. -/
theorem subsystem_of_run {steps : List Subsystem.Step} {config : SubsystemConfig}
    {error : BootstrapError} (h : (Subsystem.run steps config).result = .error error) :
    ∃ step cause, error = .subsystem step cause := by
  obtain ⟨-, hresult⟩ | ⟨-, failing, -, cause, -, -, hresult⟩ := Subsystem.run_cases steps config
  · exact absurd (h.symm.trans hresult) (by simp)
  · exact ⟨failing.name, cause, Except.error.inj (h.symm.trans hresult)⟩

theorem sound_booted (h : Sound services course) : Sound services (supervisor.booted course) :=
  h.quiet (by rfl) (Registry.KeepsFlags.refl _)

/-- A whole run keeps the invariant, with the enabled roles of its configuration. -/
theorem sound_runLifecycle (supervisor : Supervisor) (h : Sound supervisor.config.services course) :
    Sound supervisor.config.services (supervisor.runLifecycle course).1 ∧
      ∀ cause, (supervisor.runLifecycle course).2 ≠ .failed (.readiness cause) := by
  obtain ⟨error, herror, hrun⟩ | ⟨roles, hroles, hrun⟩ := supervisor.runLifecycle_cases course
  · rw [hrun]
    refine ⟨h, ?_⟩
    rintro cause ⟨rfl⟩
    obtain ⟨-, hvalidate⟩ | ⟨-, fault, -, hvalidate⟩ | ⟨-, -, roles, -, -, hvalidate⟩ :=
      supervisor.config.validate_cases
    all_goals cases herror.symm.trans hvalidate
  · obtain ⟨error, herror, hrun⟩ | ⟨names, -, hrun⟩ := hrun
    · rw [hrun]
      obtain ⟨step, cause, rfl⟩ := subsystem_of_run herror
      exact ⟨sound_booted h, by simp [Result.failed]⟩
    · rw [hrun]
      exact sound_runRoles (sound_booted h) (Config.toList_of_validate hroles)

/-- The invariant holds at the beginning of a run in a process with unset flags. -/
theorem sound_start {machine : Machine} (h : Unset machine.metrics) :
    Sound services ((Course.start machine).enter .init) := by
  have hstart : Sound services (.start machine) := ⟨trivial, .of_unset h⟩
  exact hstart.enter .init (by decide)

/-- A run in a process with unset flags keeps the invariant throughout, and never fails to publish. -/
theorem sound_run (supervisor : Supervisor) {machine : Machine} (h : Unset machine.metrics) :
    Sound supervisor.config.services (supervisor.run machine).1 ∧
      ∀ cause, (supervisor.run machine).2 ≠ .failed (.readiness cause) := by
  obtain ⟨hsound, hresult⟩ := sound_runLifecycle supervisor (sound_start h)
  obtain ⟨error, herror, hrun⟩ | ⟨-, hrun⟩ := supervisor.run_cases machine
  · rw [hrun]
    exact ⟨(hsound.enter .fatalAbort (by decide)).report _, herror ▸ hresult⟩
  · rw [hrun]
    exact ⟨hsound, hresult⟩

/-- **Readiness is true**: for every configuration, list of steps and transport, and whatever happens
    while the daemon waits, at every moment of a run in a process with unset flags:

    - a role is ready only if it has a port and its service was started before;
    - the daemon is ready only if all enabled roles are;
    - what is ready stays ready;
    - the daemon begins to run only after it was ready.

    At the end the flags read as they did before, the daemon is not ready if an enabled role was not
    started, and the failure to publish readiness is never the result. -/
theorem run_publishes_truly (supervisor : Supervisor) (machine : Machine) (h : Unset machine.metrics) :
    let course := (supervisor.run machine).1
    (∀ before moment after, course.moments = before ++ moment :: after →
      (∀ role, isRoleReady moment.machine.metrics role →
        supervisor.config.portOf role ≠ 0 ∧ .started role true ∈ before.map (·.deed)) ∧
      (isServerReady moment.machine.metrics →
        ∀ service ∈ supervisor.config.services, isRoleReady moment.machine.metrics service.1) ∧
      (∀ later ∈ after,
        (∀ role, isRoleReady moment.machine.metrics role → isRoleReady later.machine.metrics role) ∧
        (isServerReady moment.machine.metrics → isServerReady later.machine.metrics)) ∧
      (moment.deed = .entered .running →
        ∃ earlier ∈ before, isServerReady earlier.machine.metrics)) ∧
    (∀ role, isRoleReady course.machine.metrics role ↔
      ∃ moment ∈ course.moments, isRoleReady moment.machine.metrics role) ∧
    (isServerReady course.machine.metrics ↔
      ∃ moment ∈ course.moments, isServerReady moment.machine.metrics) ∧
    (∀ service ∈ supervisor.config.services, .started service.1 true ∉ course.deeds →
      ∀ moment ∈ course.moments, ¬ isServerReady moment.machine.metrics) ∧
    ∀ cause, (supervisor.run machine).2 ≠ .failed (.readiness cause) := by
  intro course
  obtain ⟨hsound, hresult⟩ := sound_run supervisor h
  have hrole := fun role past metrics (hfollows : FlagsFollow past metrics) =>
    hfollows.isRoleReady_iff role
  have hserver := fun past metrics (hfollows : FlagsFollow past metrics) => hfollows.isServerReady_iff
  refine ⟨?_, fun role => ?_, ?_, ?_, hresult⟩
  · intro before moment after hmoments
    have horderly : Orderly supervisor.config.services [] (before ++ moment :: after) :=
      hmoments ▸ hsound.orderly
    have hfollows := (horderly.split rfl).2.1
    refine ⟨fun role hready => ?_, fun hready service hservice => ?_, fun later hlater => ?_, ?_⟩
    · -- the flag of a role follows its publication, which the start has permitted
      obtain ⟨henabled, hstarted⟩ := horderly.permitted ((hrole role _ _ hfollows).1 hready)
      obtain ⟨⟨_, port⟩, hservice, rfl⟩ := List.mem_map.1 henabled
      obtain ⟨hport, hne⟩ := Config.mem_services.1 hservice
      exact ⟨hport ▸ hne, hstarted⟩
    · have hall := horderly.permitted ((hserver _ _ hfollows).1 hready)
      exact (hrole _ _ _ hfollows).2 (List.mem_append_left _ (hall service hservice))
    · exact ⟨fun role => horderly.stays (hrole role) hlater, horderly.stays hserver hlater⟩
    · intro hrunning
      have hpermitted := (horderly.split rfl).1
      rw [hrunning] at hpermitted
      exact ((horderly.split rfl).2.2.exists_ready_iff hserver).2 hpermitted
  · rw [hsound.follows.isRoleReady_iff role, hsound.orderly.exists_ready_iff (hrole role)]
    rfl
  · rw [hsound.follows.isServerReady_iff, hsound.orderly.exists_ready_iff hserver]
    rfl
  · -- the daemon is published only when this role is, and the role only when it was started
    intro service hservice hnone moment hmoment hready
    obtain ⟨before, after, hmoments⟩ := List.append_of_mem hmoment
    have horderly : Orderly supervisor.config.services [] (before ++ moment :: after) :=
      hmoments ▸ hsound.orderly
    have hall := horderly.permitted ((hserver _ _ (horderly.split rfl).2.1).1 hready)
    obtain ⟨-, hstarted⟩ := horderly.permitted (List.mem_append_left _ (hall service hservice))
    apply hnone
    rw [Course.deeds, show course.moments = _ from hmoments, List.map_append]
    exact List.mem_append_left _ hstarted

/-- A daemon with both services on the network, which is asked to shut down, is ready only with both
    roles, and comes to be. -/
theorem run_publishes_truly_default :
    let supervisor : Supervisor := ⟨.default "node-1", [], .http (.v4 .unspecified),
      ⟨"2026-01-01T00:00:00"⟩,
      [.shutdown none, .ended 0, .ended 1]⟩
    let machine := (Readiness.register (.fresh [])).1
    Unset machine.metrics ∧
    (∀ moment ∈ (supervisor.run machine).1.moments, isServerReady moment.machine.metrics →
      isRoleReady moment.machine.metrics .planner ∧ isRoleReady moment.machine.metrics .worker) ∧
    isServerReady (supervisor.run machine).1.machine.metrics := by
  intro supervisor machine
  have hunset : Unset machine.metrics := unset_register []
  refine ⟨hunset, fun moment hmoment hready => ?_, ?_⟩
  · obtain ⟨before, after, hmoments⟩ := List.append_of_mem hmoment
    have hroles := ((run_publishes_truly supervisor machine hunset).1 before moment after hmoments).2.1
      hready
    exact ⟨hroles (.planner, 12050) (by decide), hroles (.worker, 13050) (by decide)⟩
  · decide +kernel

end Supervisor

end RoleDaemon

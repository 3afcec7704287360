import RoleDaemon.Proofs.Supervisor.Readiness
import RoleDaemon.Proofs.Supervisor.Stages

/-!
# The First Faulty Stage Decides

The result of a run, its effects and the states that it enters are those of its stages up to the first
faulty one.  There is one exception: when a start fails and the loop of a service that was started
before breaks off in memory, the waiting for this service breaks off as well, and the run with it.

Main statements:
- `Supervisor.startAll_stages`, `Supervisor.startAll_handles`: what starting does
- `Join.run_order`: in which order the services end, and what that means for the result
- `FailsFast`: a part of a run is decided by its first faulty stage
- `Supervisor.run_failFast`: so is the whole run
-/

namespace RoleDaemon

open Metrics Net Readiness

/-! ## §1 Starting -/

/-- The deeds of starting services. -/
def Deed.isStarting : Deed → Bool
  | .reported | .started .. | .roleMarked _ => true
  | _ => false

@[simp] theorem Handle.panic?_ofRunning (tasks : Nat) (service : Role × Binding) (state : Running) :
    (Handle.ofRunning tasks service state).panic? = loopPanic? service := rfl

namespace Supervisor

/-- Starting goes through its stages, up to the first service that cannot be started. -/
theorem startAll_stages (now : Timestamp) (tasks : Nat) (bound : List (Role × Binding))
    (course : Course) (started : List Handle) :
    let begun := startAll now course started (bound.map (Handle.ofService tasks))
    let stages := startStages bound course.machine.sockets
    Course.Extends (Deed.isStarting ·) course begun.1 ∧
      begun.1.effects = course.effects ++ Stage.effects stages ∧
      begun.2.2 = match Stage.firstFault? stages with
        | some error => .error error
        | none => .ok () := by
  induction bound generalizing course started with
  | nil => exact ⟨⟨[], by simp [startAll]⟩, by simp [startAll, startStages, Stage.effects], rfl⟩
  | cons service bound ih =>
    have hcons := startAll_cons now course started tasks service (bound.map (Handle.ofService tasks))
    simp only [List.map_cons, startStages, Stage.effects, Stage.firstFault?, List.findSome?_cons,
      startStage]
    cases hfault : service.2.seat.startFault? service.1 course.machine.sockets with
    | some cause =>
      -- the first fault: this service is refused, and no other is started
      simp only [hfault] at hcons
      rw [hcons]
      refine ⟨⟨[.started service.1 false], by simp, ?_⟩, ?_, rfl⟩
      · simp [Deed.isStarting]
      · simp [Course.effects, Deed.effects]
    | none =>
      simp only [hfault] at hcons
      obtain ⟨state, machine, -, hsockets, -, hnext⟩ := hcons
      rw [hnext]
      set handle : Handle := .ofRunning tasks service state with hhandle
      set published := publish (course.act (.started service.1 true) machine) handle with hpublished
      have hoccupied : published.machine.sockets = service.2.seat.occupy course.machine.sockets := by
        rw [hpublished, publish_sockets, Course.machine_act, hsockets]
      have hdeeds : published.deeds =
          course.deeds ++ [.started service.1 true, .roleMarked service.1, .reported] := by
        simp [hpublished, hhandle]
      have hleads : Course.Extends (Deed.isStarting ·) course published :=
        ⟨_, hdeeds, by simp [Deed.isStarting]⟩
      -- the other services find the listeners that this one has left
      obtain ⟨hextends, heffects, hresult⟩ := ih published (handle :: started)
      rw [hoccupied] at heffects hresult
      refine ⟨hleads.trans hextends, ?_, hresult⟩
      rw [heffects]
      simp [Course.effects, hdeeds, Deed.effects]

/-- The handles that starting leaves: the services that were started run, and no other can break off
    whoever waits for it. -/
theorem startAll_handles (now : Timestamp) (tasks : Nat) (bound : List (Role × Binding))
    (course : Course) (started : List Handle) :
    let left := (startAll now course started (bound.map (Handle.ofService tasks))).2.1
    left.findSome? Handle.panic? = (started.reverse.findSome? Handle.panic?).or
        ((startedOf bound course.machine.sockets).findSome? loopPanic?) ∧
      (Stage.firstFault? (startStages bound course.machine.sockets) = none →
        left.map (fun handle => (handle.role, handle.verdict)) =
          started.reverse.map (fun handle => (handle.role, handle.verdict)) ++
            bound.map fun service => (service.1, (Handle.ofService 0 service).outcome)) := by
  induction bound generalizing course started with
  | nil => simp [startAll, startedOf]
  | cons service bound ih =>
    have hcons := startAll_cons now course started tasks service (bound.map (Handle.ofService tasks))
    simp only [List.map_cons, startStages, startedOf, Stage.firstFault?, List.findSome?_cons,
      startStage]
    cases hfault : service.2.seat.startFault? service.1 course.machine.sockets with
    | some cause =>
      simp only [hfault] at hcons
      rw [hcons]
      refine ⟨?_, by simp⟩
      -- the refused service and those behind it have no loop that could break off
      have hidle : (bound.map (Handle.ofService tasks)).findSome? Handle.panic? = none := by
        apply List.findSome?_eq_none_iff.2
        intro handle hhandle
        obtain ⟨_, -, rfl⟩ := List.mem_map.1 hhandle
        rfl
      rw [List.findSome?_append, List.findSome?_cons]
      simp only [hidle]
      rfl
    | none =>
      simp only [hfault] at hcons
      obtain ⟨state, machine, -, hsockets, -, hnext⟩ := hcons
      rw [hnext]
      set handle : Handle := .ofRunning tasks service state with hhandle
      set published := publish (course.act (.started service.1 true) machine) handle with hpublished
      have hoccupied : published.machine.sockets = service.2.seat.occupy course.machine.sockets := by
        rw [hpublished, publish_sockets, Course.machine_act, hsockets]
      obtain ⟨hpanic, hverdicts⟩ := ih published (handle :: started)
      rw [hoccupied] at hpanic hverdicts
      constructor
      · have hfirst : [handle].findSome? Handle.panic? = loopPanic? service := by simp [hhandle]
        rw [hpanic, List.reverse_cons, List.findSome?_append, hfirst, Option.or_assoc]
        simp only [List.findSome?_cons]
        cases loopPanic? service <;> rfl
      · intro hnone
        have hfirst : [handle].map (fun handle => (handle.role, handle.verdict)) =
            [(service.1, (Handle.ofService 0 service).outcome)] := rfl
        rw [hverdicts hnone, List.reverse_cons, List.map_append, hfirst, List.append_assoc]
        rfl

end Supervisor

/-! ## §2 The Order of the Ends -/

/-- The items at all places of a list are the list. -/
theorem filterMap_getElem?_range {α : Type} (items : List α) :
    (List.range items.length).filterMap (items[·]?) = items := by
  induction items with
  | nil => rfl
  | cons item items ih =>
    rw [List.length_cons, List.range_succ_eq_map, List.filterMap_cons]
    simpa [List.filterMap_map, Function.comp_def] using ih

namespace Join

/-- Ends that belong to services tell their roles and errors. -/
theorem order_of_endings {endings : List Ending} {serviceAt : Nat → Option (Role × Binding)}
    (h : ∀ ending ∈ endings, ∃ service, serviceAt ending.place = some service ∧
      service.1 = ending.role ∧ loopError? service = ending.error?) :
    ((endings.map (·.place)).filterMap serviceAt).map Prod.fst = endings.map (·.role) ∧
      ((endings.map (·.place)).filterMap serviceAt).findSome? loopError? =
        endings.findSome? Ending.error? := by
  induction endings with
  | nil => exact ⟨rfl, rfl⟩
  | cons ending endings ih =>
    obtain ⟨service, hservice, hrole, herror⟩ := h ending (List.mem_cons_self ..)
    obtain ⟨hroles, herrors⟩ := ih fun ending hmem => h ending (List.mem_cons_of_mem _ hmem)
    rw [List.map_cons, List.filterMap_cons_some hservice]
    simp only [List.map_cons, hrole, hroles, List.findSome?_cons, herror, herrors, and_self]

/-- Whatever happens, and in whatever order, the services end one after another and each at most once.
    There is a result once all of them have ended: the error of the first whose loop failed, if any. -/
theorem run_order (course : Course) {handles : List Handle} {bound : List (Role × Binding)}
    (hbound : handles.map (fun handle => (handle.role, handle.verdict)) =
      bound.map fun service => (service.1, (Handle.ofService 0 service).outcome))
    (hnodup : bound.Nodup) (happenings : List Happening) :
    let join := (begin course handles).run happenings
    ∃ order : List (Role × Binding), join.course.ended = course.ended ++ order.map Prod.fst ∧
      ((order.Perm bound ∧ join.result? = some (match order.findSome? loopError? with
          | some error => .error error
          | none => .ok ())) ∨
        (order.Subperm bound ∧ (∃ service ∈ bound, service ∉ order) ∧ join.result? = none)) := by
  intro join
  have hdrains : Drains handles join := (Drains.begin course handles).run happenings
  obtain ⟨since, htrail⟩ : ∃ since, Trail course handles join since :=
    (Trail.begin course handles).run (Drains.begin course handles) happenings
  have hlength : bound.length = handles.length := by
    simpa using (congrArg List.length hbound).symm
  -- the services of the ends that were seen, and of those to come
  let serviceAt : Nat → Option (Role × Binding) := fun place => bound[place]?
  have hperm : ((join.endings.map (·.place)).filterMap serviceAt ++
      join.pending.filterMap serviceAt).Perm bound := by
    rw [← List.filterMap_append]
    refine (hdrains.places.filterMap serviceAt).trans ?_
    rw [← hlength]
    exact List.Perm.of_eq (filterMap_getElem?_range bound)
  have hending : ∀ ending ∈ join.endings, ∃ service, serviceAt ending.place = some service ∧
      service.1 = ending.role ∧ loopError? service = ending.error? := by
    intro ending hmem
    obtain ⟨handle, hget, hrole, hresult⟩ := hdrains.endings ending hmem
    have hsame := congrArg (·[ending.place]?) hbound
    simp only [List.getElem?_map, hget, Option.map_some] at hsame
    obtain ⟨service, hservice, heq⟩ := Option.map_eq_some_iff.1 hsame.symm
    obtain ⟨hfst, hverdict⟩ := Prod.mk.inj heq
    have hrole : ending.role = service.1 := hrole.trans hfst.symm
    have hresult : ending.result = (Handle.ofService 0 service).outcome := hresult.trans hverdict.symm
    refine ⟨service, hservice, hrole.symm, ?_⟩
    cases houtcome : (Handle.ofService 0 service).outcome with
    | ok _ => simp [loopError?, Ending.error?, hresult, houtcome]
    | error fault => simp [loopError?, Ending.error?, hresult, houtcome, hrole]
  obtain ⟨hroles, herrors⟩ := order_of_endings hending
  refine ⟨(join.endings.map (·.place)).filterMap serviceAt, ?_, ?_⟩
  · rw [Course.ended, htrail.deeds, List.filterMap_append, htrail.joined, hroles]
    rfl
  · cases hpending : join.pending with
    | nil =>
      left
      rw [hpending, List.filterMap_nil, List.append_nil] at hperm
      refine ⟨hperm, ?_⟩
      rw [herrors, ← htrail.first, result?, isDone, hpending]
      rfl
    | cons place pending =>
      right
      refine ⟨(List.sublist_append_left _ _).subperm.trans hperm.subperm, ?_, ?_⟩
      · -- the service of a pending place is not among those that have ended
        have hplace : place ∈ List.range bound.length := by
          rw [hlength]
          refine hdrains.places.mem_iff.1 (List.mem_append_right _ ?_)
          simp [hpending]
        obtain ⟨service, hservice⟩ : ∃ service, serviceAt place = some service :=
          ⟨_, List.getElem?_eq_getElem (List.mem_range.1 hplace)⟩
        have hleft : service ∈ join.pending.filterMap serviceAt :=
          List.mem_filterMap.2 ⟨place, by simp [hpending], hservice⟩
        refine ⟨service, List.mem_of_getElem? hservice, fun hseen => ?_⟩
        exact (List.nodup_append.1 (hperm.nodup_iff.2 hnodup)).2.2 service hseen service hleft rfl
      · rw [result?, isDone, hpending]
        rfl

end Join

/-! ## §3 Decided by the First Faulty Stage -/

/-- A part of a run, from one course to another, is decided by its stages.  It does the effects of the
    stages up to the first faulty one, and comes to the error of this stage; `begun` are the services
    that have started by then.  When no stage is faulty, the services end in some order. -/
structure FailsFast (preparing starting : List Stage) (bound begun : List (Role × Binding))
    (before after : Course) (result : Supervisor.Result) : Prop where
  effects : after.effects =
    before.effects ++ Stage.effects (preparing ++ starting ++ [Supervisor.publication])
  prepare : ∀ error, Stage.firstFault? preparing = some error →
    after.states = before.states ∧ result = .failed error
  start : Stage.firstFault? preparing = none →
    ∀ error, Stage.firstFault? starting = some error →
      after.states = before.states ++ [.servicesCreated, .starting] ∧
      result = .gaveUp error (begun.findSome? loopPanic?)
  serve : Stage.firstFault? preparing = none → Stage.firstFault? starting = none →
    ∃ order : List (Role × Binding), after.ended = before.ended ++ order.map Prod.fst ∧
      ((order.Perm bound ∧
          after.states = before.states ++
            [.servicesCreated, .starting, .running, .blocked, .terminated] ∧
          result = .finished (match order.findSome? loopError? with
            | some error => .error error
            | none => .ok ())) ∨
        (order.Subperm bound ∧ (∃ service ∈ bound, service ∉ order) ∧
          after.states = before.states ++ [.servicesCreated, .starting, .running, .blocked] ∧
          result = .unfinished))

namespace FailsFast

variable {preparing starting : List Stage} {bound begun : List (Role × Binding)}
  {before middle after : Course} {result : Supervisor.Result}

/-- The preparation comes to its fault. -/
theorem of_fault {error : BootstrapError} (hfault : Stage.firstFault? preparing = some error)
    (heffects : after.effects = before.effects ++ Stage.effects preparing)
    (hstates : after.states = before.states) :
    FailsFast preparing starting bound begun before after (.failed error) where
  effects := by
    rw [heffects, List.append_assoc, Stage.effects_append, hfault]
    simp
  prepare error' herror := by
    rw [hfault] at herror
    cases herror
    exact ⟨hstates, rfl⟩
  start hnone := by
    rw [hfault] at hnone
    cases hnone
  serve hnone := by
    rw [hfault] at hnone
    cases hnone

/-- Some service cannot be started, and the run gives up. -/
theorem of_refusal {error : BootstrapError} (hfault : Stage.firstFault? starting = some error)
    (heffects : after.effects = before.effects ++ Stage.effects starting)
    (hstates : after.states = before.states ++ [.servicesCreated, .starting]) :
    FailsFast [] starting bound begun before after (.gaveUp error (begun.findSome? loopPanic?)) where
  effects := by
    rw [heffects, List.nil_append, Stage.effects_append, hfault]
    simp
  prepare _ herror := nomatch herror
  start _ error' herror := by
    rw [hfault] at herror
    cases herror
    exact ⟨hstates, rfl⟩
  serve _ hnone := by
    rw [hfault] at hnone
    cases hnone

/-- All services are started, and the daemon is published and waits for them. -/
theorem of_order (hpassed : Stage.firstFault? starting = none)
    (heffects : after.effects = before.effects ++ Stage.effects starting ++ [.serverMarked])
    {order : List (Role × Binding)} (hended : after.ended = before.ended ++ order.map Prod.fst)
    (horder : (order.Perm bound ∧
          after.states = before.states ++
            [.servicesCreated, .starting, .running, .blocked, .terminated] ∧
          result = .finished (match order.findSome? loopError? with
            | some error => .error error
            | none => .ok ())) ∨
        (order.Subperm bound ∧ (∃ service ∈ bound, service ∉ order) ∧
          after.states = before.states ++ [.servicesCreated, .starting, .running, .blocked] ∧
          result = .unfinished)) :
    FailsFast [] starting bound begun before after result where
  effects := by
    rw [heffects, List.nil_append, Stage.effects_append, hpassed]
    simp [Supervisor.publication, Stage.effects]
  prepare _ herror := nomatch herror
  start _ error herror := by
    rw [hpassed] at herror
    cases herror
  serve _ _ := ⟨order, hended, horder⟩

/-- Stages that passed may stand before. -/
theorem prepend {passed : List Stage} (hpassed : Stage.firstFault? passed = none)
    (heffects : middle.effects = before.effects ++ Stage.effects passed)
    (hstates : middle.states = before.states) (hended : middle.ended = before.ended)
    (h : FailsFast preparing starting bound begun middle after result) :
    FailsFast (passed ++ preparing) starting bound begun before after result := by
  have hfirst : Stage.firstFault? (passed ++ preparing) = Stage.firstFault? preparing := by
    rw [Stage.firstFault?_append, hpassed]
    rfl
  constructor
  · rw [h.effects, heffects, List.append_assoc passed, List.append_assoc passed,
      Stage.effects_append passed, hpassed, List.append_assoc]
    rfl
  · rw [hfirst, ← hstates]
    exact h.prepare
  · rw [hfirst, ← hstates]
    exact h.start
  · rw [hfirst, ← hstates, ← hended]
    exact h.serve

/-- What the deeds do not tell does not matter. -/
theorem congr {after' : Course} (h : FailsFast preparing starting bound begun before after result)
    (heffects : after'.effects = after.effects) (hstates : after'.states = after.states)
    (hended : after'.ended = after.ended) :
    FailsFast preparing starting bound begun before after' result := by
  constructor
  · rw [heffects]
    exact h.effects
  · rw [hstates]
    exact h.prepare
  · rw [hstates]
    exact h.start
  · rw [hstates, hended]
    exact h.serve

end FailsFast

namespace Supervisor

variable {supervisor : Supervisor} {course : Course} {services : List (Role × UInt16)}

theorem isBinding_readings {deed : Deed} (h : deed.isBinding) :
    deed.state? = none ∧ deed.joinedRole? = none := by
  cases deed <;> first | exact ⟨rfl, rfl⟩ | cases h

theorem isStarting_readings {deed : Deed} (h : deed.isStarting) :
    deed.state? = none ∧ deed.joinedRole? = none := by
  cases deed <;> first | exact ⟨rfl, rfl⟩ | cases h

theorem isIdle_readings {deed : Deed} (h : deed.isIdle) :
    deed.effects = [] ∧ deed.state? = none := by
  cases deed <;> first | exact ⟨rfl, rfl⟩ | cases h

/-- Waiting for the services. -/
theorem waitForServices_order (supervisor : Supervisor) (course : Course) {handles : List Handle}
    {bound : List (Role × Binding)}
    (hbound : handles.map (fun handle => (handle.role, handle.verdict)) =
      bound.map fun service => (service.1, (Handle.ofService 0 service).outcome))
    (hnodup : bound.Nodup) :
    let served := supervisor.waitForServices course handles
    served.1.effects = course.effects ∧
    ∃ order : List (Role × Binding), served.1.ended = course.ended ++ order.map Prod.fst ∧
      ((order.Perm bound ∧ served.1.states = course.states ++ [.running, .blocked, .terminated] ∧
          served.2 = .finished (match order.findSome? loopError? with
            | some error => .error error
            | none => .ok ())) ∨
        (order.Subperm bound ∧ (∃ service ∈ bound, service ∉ order) ∧
          served.1.states = course.states ++ [.running, .blocked] ∧ served.2 = .unfinished)) := by
  intro served
  set join := (Join.begin (blocked course) handles).run supervisor.happenings with hjoin
  have hidle : Course.Extends (Deed.isIdle ·) (blocked course) join.course :=
    (Join.leadsIdle_run (Join.begin (blocked course) handles) supervisor.happenings).extends
  have heffects : join.course.effects = course.effects := by
    rw [hidle.effects fun _ h => (isIdle_readings h).1]
    simp [blocked]
  have hstates : join.course.states = course.states ++ [.running, .blocked] := by
    rw [hidle.states fun _ h => (isIdle_readings h).2]
    simp [blocked]
  obtain ⟨order, hended, horder⟩ :=
    Join.run_order (blocked course) hbound hnodup supervisor.happenings
  rw [← hjoin] at hended horder
  have hended : join.course.ended = course.ended ++ order.map Prod.fst := by
    rw [hended]
    simp [blocked]
  obtain ⟨hpending, hserved⟩ | ⟨result, hresult, hserved⟩ :=
    supervisor.waitForServices_cases course handles
  · -- no result yet, so that some end is missing
    obtain ⟨-, hdone⟩ | ⟨hsub, hmissing, -⟩ := horder
    · rw [hpending] at hdone
      cases hdone
    · rw [show served = _ from hserved]
      exact ⟨heffects, order, hended, .inr ⟨hsub, hmissing, hstates, rfl⟩⟩
  · obtain ⟨hperm, hdone⟩ | ⟨-, -, hnone⟩ := horder
    · rw [hresult] at hdone
      rw [show served = _ from hserved]
      refine ⟨?_, order, ?_, .inl ⟨hperm, ?_, congrArg _ (Option.some.inj hdone)⟩⟩
      · simp [← hjoin, heffects]
      · simp [← hjoin, hended]
      · simp [← hjoin, hstates]
    · rw [hresult] at hnone
      cases hnone

/-- Once the services are bound, the run is decided by their start. -/
theorem startServices_failsFast {roles : EnabledRoles} (h : Sound roles.toList course)
    {bound : List (Role × Binding)} (hbound : bound.map Prod.fst = roles.toList.map Prod.fst)
    (hnodup : bound.Nodup) (tasks : Nat) {served : Course × Result} :
    let begun :=
      startAll supervisor.now (Supervisor.starting course) [] (bound.map (Handle.ofService tasks))
    ((∃ error, begun.2.2 = .error error ∧ served = giveUp begun.1 begun.2.1 error) ∨
      (begun.2.2 = .ok () ∧ ∃ cause, Readiness.markServer begun.1.machine roles = .error cause ∧
        served = giveUp begun.1 begun.2.1 (.readiness cause)) ∨
      (begun.2.2 = .ok () ∧ ∃ machine, Readiness.markServer begun.1.machine roles = .ok machine ∧
        served = supervisor.waitForServices (begun.1.act .serverMarked machine) begun.2.1)) →
    FailsFast [] (startStages bound course.machine.sockets) bound
      (startedOf bound course.machine.sockets) course served.1 served.2 := by
  intro begun hcases
  have hstarting : Sound roles.toList (Supervisor.starting course) :=
    (h.enter .servicesCreated (by decide)).enter .starting (by decide)
  have hpublish := markServer_of_startAll hstarting supervisor.now tasks hbound rfl
  obtain ⟨hextends, heffects, hresult⟩ : Course.Extends (Deed.isStarting ·)
      (Supervisor.starting course) begun.1 ∧ _ ∧ begun.2.2 = _ :=
    startAll_stages supervisor.now tasks bound (Supervisor.starting course) []
  obtain ⟨hpanic, hverdicts⟩ :=
    startAll_handles supervisor.now tasks bound (Supervisor.starting course) []
  have hsockets : (Supervisor.starting course).machine.sockets = course.machine.sockets := rfl
  have heffects : begun.1.effects =
      course.effects ++ Stage.effects (startStages bound course.machine.sockets) := by
    rw [heffects, hsockets]
    simp [Supervisor.starting]
  have hstates : begun.1.states = course.states ++ [.servicesCreated, .starting] := by
    rw [hextends.states fun _ h => (isStarting_readings h).1]
    simp [Supervisor.starting]
  have hended : begun.1.ended = course.ended := by
    rw [hextends.ended fun _ h => (isStarting_readings h).2]
    simp [Supervisor.starting]
  have hpanic : begun.2.1.findSome? Handle.panic? =
      (startedOf bound course.machine.sockets).findSome? loopPanic? := hpanic
  rw [hsockets] at hresult
  cases hfault : Stage.firstFault? (startStages bound course.machine.sockets) with
  | some error =>
    -- a start is the first fault
    simp only [hfault] at hresult
    obtain ⟨error', herror, hserved⟩ | ⟨hok, -⟩ | ⟨hok, -⟩ := hcases
    · obtain rfl : error = error' := Except.error.inj (hresult.symm.trans herror)
      obtain ⟨hidle, hgave⟩ := giveUp_spec begun.1 begun.2.1 error
      rw [hserved, hgave, hpanic]
      -- giving up has no effects and enters no states
      refine .of_refusal hfault ?_ ?_
      · rw [hidle.extends.effects fun _ h => (isIdle_readings h).1, heffects]
      · rw [hidle.extends.states fun _ h => (isIdle_readings h).2, hstates]
    · cases hresult.symm.trans hok
    · cases hresult.symm.trans hok
  | none =>
    -- all services are started, and what is left are their ends
    simp only [hfault] at hresult
    obtain ⟨error', herror, -⟩ | ⟨hok, cause, hmark, -⟩ | ⟨hok, machine, hmark, hserved⟩ := hcases
    · cases hresult.symm.trans herror
    · -- every enabled role was published, so that the daemon can be
      cases (hpublish hok).2.symm.trans hmark
    · obtain ⟨heffects', order, hended', horder⟩ := supervisor.waitForServices_order
        (begun.1.act .serverMarked machine) (hverdicts hfault) hnodup
      rw [hserved]
      refine .of_order hfault ?_ (?_ : _ = course.ended ++ order.map Prod.fst) ?_
      · rw [heffects', Course.effects_act, heffects]
        rfl
      · simpa [Deed.joinedRole?, hended] using hended'
      · simpa [Deed.state?, hstates] using horder

/-- The part of a run that has an environment is decided by the binding and the start of the
    services. -/
theorem runServices_failsFast (supervisor : Supervisor) (h : Sound services course)
    {roles : EnabledRoles} (hroles : roles.toList = services)
    (hnodup : (services.map Prod.fst).Nodup) (environment : Environment) :
    let bound := supervisor.transport.bound services
    let served := supervisor.runServices roles environment course
    FailsFast (services.map supervisor.transport.stage) (startStages bound course.machine.sockets)
      bound (startedOf bound course.machine.sockets) course served.1 served.2 := by
  subst hroles
  intro bound served
  set created := course.act .serviceCreated course.machine with hcreated
  have heffects := created.activate_stages supervisor.transport environment.tasks roles.toList
  obtain ⟨hleads, ⟨log, hmachine⟩, hresult⟩ :=
    created.activate_spec supervisor.transport environment.tasks roles.toList
  have hsound : Sound roles.toList created := h.quiet (by rfl) (Registry.KeepsFlags.refl _)
  have hactivated := hsound.leads hleads fun _ => isQuiet_of_isBinding
  rw [← firstFault?_map_stage] at hresult
  have hcases := supervisor.runServices_cases roles environment course
  simp only [← hcreated] at hcases
  set activated := created.activate supervisor.transport environment.tasks roles.toList
  have heffects : activated.1.effects =
      course.effects ++ Stage.effects (roles.toList.map supervisor.transport.stage) := by
    rw [heffects]
    simp [hcreated, Deed.effects]
  have hstates : activated.1.states = course.states := by
    rw [hleads.extends.states fun _ h => (isBinding_readings h).1]
    simp [hcreated, Deed.state?]
  have hended : activated.1.ended = course.ended := by
    rw [hleads.extends.ended fun _ h => (isBinding_readings h).2]
    simp [hcreated, Deed.joinedRole?]
  cases hfault : Stage.firstFault? (roles.toList.map supervisor.transport.stage) with
  | some error =>
    simp only [hfault] at hresult
    obtain ⟨error', herror, hrun⟩ | ⟨handles, hhandles, -⟩ := hcases
    · rw [hresult] at herror
      cases herror
      rw [show served = _ from hrun]
      exact .of_fault hfault heffects hstates
    · rw [hresult] at hhandles
      cases hhandles
  | none =>
    simp only [hfault] at hresult
    obtain ⟨error', herror, -⟩ | ⟨handles, hhandles, hrun⟩ := hcases
    · rw [hresult] at herror
      cases herror
    · rw [hresult] at hhandles
      cases hhandles
      have hbound := Transport.map_fst_bound ((firstFault?_map_stage _ _).symm.trans hfault)
      have hserved := startServices_failsFast hactivated hbound
        (List.Nodup.of_map _ (hbound ▸ hnodup)) environment.tasks hrun
      rw [hmachine] at hserved
      have hwhole := hserved.prepend hfault heffects hstates hended
      rwa [List.append_nil] at hwhole

/-- The port that names the daemon is the one of its first role. -/
theorem primaryPort_of_toList {config : Config} {roles : EnabledRoles}
    (h : roles.toList = config.services) : roles.primaryPort = config.primaryPort := by
  rw [Config.primaryPort, ← h]
  cases roles <;> rfl

/-- The part of a run behind the subsystem bootstrap is decided by the environment, the binding and the
    start of the services. -/
theorem runRoles_failsFast (h : Sound supervisor.config.services course) {roles : EnabledRoles}
    (hroles : roles.toList = supervisor.config.services) {machine : Machine}
    (hmachine : ∃ log, course.machine = { machine with log }) :
    let served := supervisor.runRoles roles course
    FailsFast (supervisor.environmentStage machine ::
        supervisor.config.services.map supervisor.transport.stage)
      (supervisor.launch machine) supervisor.bound (supervisor.launched machine) course
      served.1 served.2 := by
  intro served
  obtain ⟨log, hmachine⟩ := hmachine
  set identity := Identity.generate supervisor.config.hostname roles.primaryPort with hidentity
  set named := course.report (.identityGenerated identity) with hnamed
  set built := Environment.init identity supervisor.config supervisor.now named.machine with hbuilt
  obtain ⟨log', hlog⟩ : ∃ log', built =
      ({ (supervisor.environment machine).1 with log := log' },
        (supervisor.environment machine).2) := by
    -- the events so far are the only difference, and they do not matter
    have hport := primaryPort_of_toList hroles
    have hsame : named.machine =
        { machine with log := log ++ [.identityGenerated identity] } := by
      rw [hnamed, Course.report, Course.machine_act, hmachine]
      rfl
    rw [hbuilt, hsame, hidentity, hport]
    exact Environment.init_log _ _ _ machine _
  have hsound := fun succeeded => sound_environmentBuilt h identity supervisor.config supervisor.now
    succeeded
  have hsecond : built.2 = (supervisor.environment machine).2 := by rw [hlog]
  obtain ⟨cause, hcause, hrun⟩ | ⟨environment, henvironment, hrun⟩ :=
    supervisor.runRoles_cases roles course
  · have hfault : (supervisor.environmentStage machine).fault? = some (.environment cause) := by
      simp only [environmentStage, ← hsecond, show built.2 = .error cause from hcause]
    rw [show served = _ from hrun]
    refine .of_fault ?_ ?_ ?_
    · simp [Stage.firstFault?, hfault]
    · rw [Stage.effects_cons_of_fault hfault]
      simp [environmentStage, Deed.effects]
    · simp [Deed.state?]
  · have hpassed : (supervisor.environmentStage machine).fault? = none := by
      simp only [environmentStage, ← hsecond, show built.2 = .ok environment from henvironment]
    have hfirst : Stage.firstFault? [supervisor.environmentStage machine] = none := by
      simp [Stage.firstFault?, hpassed]
    set begun := (named.act (.environmentBuilt true) built.1).within environment with hbegun
    have hsockets : begun.machine.sockets = (supervisor.environment machine).1.sockets := by
      show built.1.sockets = _
      rw [hlog]
    have heffects : begun.effects =
        course.effects ++ Stage.effects [supervisor.environmentStage machine] := by
      rw [Stage.effects_cons_of_passed hpassed]
      simp [hbegun, hnamed, environmentStage, Deed.effects, Stage.effects]
    have hservices := runServices_failsFast supervisor ((hsound true).within environment) hroles
      supervisor.config.nodup_services environment
    have hserved : FailsFast (_ :: _) (startStages supervisor.bound begun.machine.sockets)
        supervisor.bound (startedOf supervisor.bound begun.machine.sockets) course _ _ :=
      FailsFast.prepend hfirst heffects (by simp [hbegun, hnamed, Deed.state?])
        (by simp [hbegun, hnamed, Deed.joinedRole?]) hservices
    rw [hsockets] at hserved
    obtain ⟨-, hrun⟩ | ⟨-, hrun⟩ := hrun
    · rw [show served = _ from hrun]
      exact hserved.congr (Course.effects_leave _ _) (Course.states_leave _ _) (Course.ended_leave _ _)
    · rw [show served = _ from hrun]
      exact hserved

/-- A run is decided by all its stages. -/
theorem runLifecycle_failsFast (supervisor : Supervisor) {course : Course}
    (h : Sound supervisor.config.services course) {machine : Machine}
    (hmachine : ∃ log, course.machine = { machine with log }) :
    let lived := supervisor.runLifecycle course
    FailsFast (supervisor.preparation machine) (supervisor.launch machine) supervisor.bound
      (supervisor.launched machine) course lived.1 lived.2 := by
  intro lived
  obtain ⟨hnone, hvalidate⟩ | ⟨hsome, fault, hhost, hvalidate⟩ |
    ⟨hsome, hhost, valid, -, -, hvalidate⟩ :=
    supervisor.config.validate_cases
  · have hfault : supervisor.rolesStage.fault? = some .noRoleEnabled := by simp [rolesStage, hnone]
    obtain ⟨error, herror, hrun⟩ | ⟨roles, hroles, -⟩ := supervisor.runLifecycle_cases course
    · cases herror.symm.trans hvalidate
      rw [show lived = _ from hrun]
      refine .of_fault ?_ ?_ rfl
      · simp [Stage.firstFault?, preparation, hfault]
      · rw [preparation, List.cons_append, Stage.effects_cons_of_fault hfault]
        simp [rolesStage]
    · cases hroles.symm.trans hvalidate
  · -- there is a role, and the host name is refused
    have hroles : supervisor.rolesStage.fault? = none := by simp [rolesStage, hsome]
    have hfault : supervisor.hostnameStage.fault? = some (.invalidConfig fault.message) := by
      simp [hostnameStage, hhost]
    obtain ⟨error, herror, hrun⟩ | ⟨roles, hroles, -⟩ := supervisor.runLifecycle_cases course
    · cases herror.symm.trans hvalidate
      rw [show lived = _ from hrun]
      refine .of_fault ?_ ?_ rfl
      · simp [Stage.firstFault?, preparation, hroles, hfault]
      · rw [preparation, List.cons_append, List.cons_append, Stage.effects_cons_of_passed hroles,
          Stage.effects_cons_of_fault hfault]
        simp [rolesStage, hostnameStage]
    · cases hroles.symm.trans hvalidate
  · -- both checks pass, and the subsystem steps are run
    have hroles : supervisor.rolesStage.fault? = none := by simp [rolesStage, hsome]
    have hhostname : supervisor.hostnameStage.fault? = none := by simp [hostnameStage, hhost]
    set steps := supervisor.steps.map (Subsystem.Step.stage supervisor.config.subsystems) with hsteps
    set checked := supervisor.rolesStage :: supervisor.hostnameStage :: steps with hchecked
    have hfirst : Stage.firstFault? checked = Stage.firstFault? steps := by
      simp [Stage.firstFault?, hchecked, hroles, hhostname]
    have heffects : (supervisor.booted course).effects = course.effects ++ Stage.effects checked := by
      rw [hchecked, Stage.effects_cons_of_passed hroles, Stage.effects_cons_of_passed hhostname, hsteps,
        ← (Subsystem.run_stages _ _).1]
      simp [booted, Deed.effects, rolesStage, hostnameStage]
    have hresult := (Subsystem.run_stages supervisor.steps supervisor.config.subsystems).2
    rw [← hsteps] at hresult
    obtain ⟨error, herror, -⟩ | ⟨roles, hvalid, hrun⟩ := supervisor.runLifecycle_cases course
    · cases herror.symm.trans hvalidate
    · obtain ⟨error, herror, hrun⟩ | ⟨names, hnames, hrun⟩ := hrun
      · have hfault : Stage.firstFault? steps = some error := by
          split at hresult
          · rename_i error' hfault
            cases hresult.symm.trans herror
            exact hfault
          · obtain ⟨names, hnames⟩ := hresult
            cases hnames.symm.trans herror
        rw [show lived = _ from hrun]
        refine .of_fault ?_ ?_ (by simp [booted, Deed.state?])
        · rw [preparation, Stage.firstFault?_append, hfirst, hfault]
          rfl
        · rw [heffects, preparation, Stage.effects_append, hfirst, hfault]
          simp only [Option.isSome_some, if_true, List.append_nil]
          rfl
      · have hpassed : Stage.firstFault? checked = none := by
          rw [hfirst]
          split at hresult
          · cases hresult.symm.trans hnames
          · rename_i hpassed
            exact hpassed
        rw [show lived = _ from hrun]
        refine FailsFast.prepend hpassed heffects (by simp [booted, Deed.state?])
          (by simp [booted, Deed.joinedRole?]) ?_
        obtain ⟨log, hlog⟩ := hmachine
        exact runRoles_failsFast (sound_booted h) (Config.toList_of_validate hvalid)
          ⟨log ++ (Subsystem.run supervisor.steps supervisor.config.subsystems).events,
            by simp [booted, hlog]⟩

/-- A run that comes to an error enters one state more, and else nothing is added. -/
theorem run_readings (supervisor : Supervisor) (machine : Machine) :
    let lived := supervisor.runLifecycle ((Course.start machine).enter .init)
    let ran := supervisor.run machine
    ran.2 = lived.2 ∧ ran.1.effects = lived.1.effects ∧ ran.1.ended = lived.1.ended ∧
      (∀ error, lived.2 = .failed error → ran.1.states = lived.1.states ++ [.fatalAbort]) ∧
      ((∀ error, lived.2 ≠ .failed error) → ran.1.states = lived.1.states) := by
  intro lived ran
  obtain ⟨error, herror, hrun⟩ | ⟨hother, hrun⟩ := supervisor.run_cases machine
  · rw [show ran = _ from hrun]
    refine ⟨herror.symm, by simp [lived], by simp [lived], fun _ _ => by simp [lived], fun h => ?_⟩
    exact absurd herror (h error)
  · rw [show ran = _ from hrun]
    exact ⟨rfl, rfl, rfl, fun error herror => absurd herror (hother error), fun _ => rfl⟩

theorem mem_effects_roleMarked {course : Course} {role : Role} :
    .roleMarked role ∈ course.effects ↔ .roleMarked role ∈ course.deeds := by
  simp only [Course.effects, List.mem_flatMap]
  constructor
  · rintro ⟨deed, hdeed, heffect⟩
    cases deed <;> simp_all [Deed.effects]
  · exact fun hdeed => ⟨_, hdeed, by simp [Deed.effects]⟩

theorem mem_effects_serverMarked {course : Course} :
    .serverMarked ∈ course.effects ↔ .serverMarked ∈ course.deeds := by
  simp only [Course.effects, List.mem_flatMap]
  constructor
  · rintro ⟨deed, hdeed, heffect⟩
    cases deed <;> simp_all [Deed.effects]
  · exact fun hdeed => ⟨_, hdeed, by simp [Deed.effects]⟩

/-- A daemon with the two services in memory: the planner follows the given loop, and the start of the
    worker fails. -/
def refusedWorker (loop : Loop) : Supervisor where
  config := { Config.default "node-1" with
    webserver := { WebserverConfig.default with enabled := false } }
  steps := []
  transport := .scripted fun
    | .planner => ⟨none, none, loop⟩
    | .worker => ⟨none, some (.ofMessage "no start"), .serves⟩
  now := ⟨"2026-01-01T00:00:00"⟩
  happenings := []

end Supervisor

end RoleDaemon

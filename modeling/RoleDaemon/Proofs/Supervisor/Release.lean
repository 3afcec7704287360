import RoleDaemon.Proofs.Service.Holdings
import RoleDaemon.Proofs.Supervisor.Run

/-!
# Nothing Is Left

A daemon on the network opens a listener for the pages and one for each role, and lists a task for each
of them.  Whichever way a run takes to its end, all of it is given back, and what others listen on is
as before.

## Architecture

`Custody` says that everything is held by the services of a list, or by the server of the pages.  It is
kept by each operation on one service (`Custody.replace`), so that starting, giving up and waiting in
any order keep it, and once no service runs and the pages are taken down, nobody holds anything.

Main statements:
- `Environment.init_accounted`, `Environment.shutdown_accounted`: what the server of the pages holds
- `Supervisor.startAll_custody`, `Supervisor.giveUp_custody`, `Join.Guards.run`: the parts of a run
- `Supervisor.run_releases`: a run leaves nothing
-/

namespace RoleDaemon

open Net

variable {taken : List Endpoint} {held : List Holding}

/-! ## §1 The Server of the Pages -/

namespace Environment

variable {machine : Machine}

/-- What the server of the pages holds, where the pages are served. -/
def holding? (environment : Environment) : Option Holding :=
  environment.webServer?.map fun server => ⟨server.endpoint, server.task⟩

/-- The environment of a process without lists of live tasks has the first list, and everything new is
    held by the server of its pages. -/
theorem init_accounted (identity : Identity) (config : Config) (now : Timestamp)
    (h : Accounted taken [] machine) (hlists : machine.taskLists = []) :
    let built := init identity config now machine
    (∀ cause, built.2 = .error cause → Accounted taken [] built.1) ∧
    (∀ environment, built.2 = .ok environment →
      environment.tasks = 0 ∧ Accounted taken environment.holding?.toList built.1) := by
  -- the process right before the server is started, when the list of live tasks was added
  have hadded : Accounted taken [] { machine with taskLists := [.empty] } :=
    ⟨h.sockets, h.foreign, Nat.le_refl 1, by simp [TaskRegistry.empty], h.places⟩
  obtain ⟨machine', cause, hinit, hsockets, htasks⟩ | ⟨machine', hinit, hsockets, htasks⟩ |
    ⟨machine', listener, sockets, hinit, hlisten, hsockets, htasks⟩ :=
    init_cases identity config now machine
  · rw [hinit]
    exact ⟨fun _ _ => h.congr hsockets htasks, nofun⟩
  · -- the pages are disabled
    rw [hinit]
    refine ⟨nofun, ?_⟩
    rintro environment ⟨⟩
    refine ⟨by rw [hlists]; rfl, hadded.congr hsockets ?_⟩
    rw [htasks, hlists]
    rfl
  · -- the pages are served
    rw [hinit]
    refine ⟨nofun, ?_⟩
    rintro environment ⟨⟩
    have hlength : machine.taskLists.length = 0 := by rw [hlists]; rfl
    refine ⟨hlength, ?_⟩
    have hserved := hadded.acquire hlisten webServerTask.1 webServerTask.2 now hsockets
      (by rw [htasks, hlists]; rfl)
    simp only [holding?, hlength]
    exact hserved

/-- Taking an environment down gives back what the server of its pages held. -/
theorem shutdown_accounted {environment : Environment}
    (h : Accounted taken environment.holding?.toList machine) :
    (environment.shutdown machine).1.webServer? = none ∧
      Accounted taken [] (environment.shutdown machine).2 := by
  unfold shutdown
  cases hserver : environment.webServer? with
  | none =>
    refine ⟨hserver, ?_⟩
    simpa [holding?, hserver] using h
  | some server =>
    have hheld : Accounted taken [⟨server.endpoint, server.task⟩] machine := by
      simpa [holding?, hserver] using h
    exact ⟨rfl, hheld.release.congr rfl rfl⟩

end Environment

/-! ## §2 Custody -/

/-- The holdings of the services of a list, from the point of view of one of them. -/
theorem holdings_perm (before after : List Handle) (handle : Handle) (held : List Holding) :
    ((before ++ handle :: after).filterMap Handle.holding? ++ held).Perm
      (handle.holding?.toList ++ ((before ++ after).filterMap Handle.holding? ++ held)) := by
  rw [List.filterMap_append, List.filterMap_append]
  cases hholding : handle.holding? with
  | none => simp [hholding]
  | some holding =>
    rw [List.filterMap_cons_some hholding, List.append_assoc, List.append_assoc]
    exact List.perm_middle

/-- The services of a list are on the network, everything beside `held` is held by them, and they are
    the services that were started. -/
structure Custody (taken : List Endpoint) (held : List Holding) (course : Course)
    (handles : List Handle) : Prop where
  network : ∀ handle ∈ handles, handle.OnNetwork
  accounted : Accounted taken (handles.filterMap Handle.holding? ++ held) course.machine
  started : ∀ role, .started role true ∈ course.deeds →
    ∃ handle ∈ handles, handle.role = role ∧ handle.hasStarted

namespace Custody

variable {course course' : Course} {handles before after : List Handle} {handle handle' : Handle}
  {machine' : Machine}

/-- The course may go on without starts, listeners and tasks. -/
theorem congr (h : Custody taken held course handles)
    (hstarted : ∀ role, .started role true ∈ course'.deeds → .started role true ∈ course.deeds)
    (hsockets : course'.machine.sockets = course.machine.sockets)
    (htasks : course'.machine.taskLists = course.machine.taskLists) :
    Custody taken held course' handles :=
  ⟨h.network, h.accounted.congr hsockets htasks, fun role hdeed => h.started role (hstarted role hdeed)⟩

/-- An operation on one service keeps the custody if it accounts for what this service holds. -/
theorem replace (h : Custody taken held course (before ++ handle :: after)) {deed : Deed}
    (hnetwork : handle'.OnNetwork) (hrole : handle'.role = handle.role)
    (hkept : handle.hasStarted → handle'.hasStarted)
    (hdeed : ∀ role, deed = .started role true → handle'.role = role ∧ handle'.hasStarted)
    (haccounted : ∀ others, Accounted taken (handle.holding?.toList ++ others) course.machine →
      Accounted taken (handle'.holding?.toList ++ others) machine') :
    Custody taken held (course.act deed machine') (before ++ handle' :: after) := by
  refine ⟨fun other hother => ?_, ?_, fun role hstarted => ?_⟩
  · rcases List.mem_append.1 hother with hbefore | hrest
    · exact h.network other (List.mem_append_left _ hbefore)
    · rcases List.mem_cons.1 hrest with rfl | hafter
      · exact hnetwork
      · exact h.network other (List.mem_append_right _ (List.mem_cons_of_mem _ hafter))
  · -- what the others hold is beside what this service holds, before and after
    have hbefore := h.accounted.perm (holdings_perm before after handle held)
    exact (haccounted _ hbefore).perm (holdings_perm before after handle' held).symm
  · rw [Course.deeds_act] at hstarted
    rcases List.mem_append.1 hstarted with hold | hnew
    · obtain ⟨other, hother, hsame, hother'⟩ := h.started role hold
      rcases List.mem_append.1 hother with hmem | hrest
      · exact ⟨other, List.mem_append_left _ hmem, hsame, hother'⟩
      · rcases List.mem_cons.1 hrest with rfl | hafter
        · exact ⟨handle', by simp, hrole.trans hsame, hkept hother'⟩
        · exact ⟨other, by simp [hafter], hsame, hother'⟩
    · obtain ⟨hsame, hstarted'⟩ := hdeed role (List.mem_singleton.1 hnew).symm
      exact ⟨handle', by simp, hsame, hstarted'⟩

/-- Waiting for one service keeps the custody, and the service runs no more. -/
theorem wait (h : Custody taken held course (before ++ handle :: after)) (role : Role)
    {result : Except LoopFault Unit}
    (hwait : handle.wait course.machine = (handle', machine', some result)) :
    Custody taken held (course.act (.joined role) machine') (before ++ handle' :: after) ∧
      handle'.isRunning = false ∧ handle'.stopRequested = handle.stopRequested := by
  have hrole : handle'.role = handle.role := by
    have hframe := (handle.wait_frame course.machine).1
    rwa [hwait] at hframe
  obtain ⟨hnetwork, hended, hstarted, hstop, haccounted⟩ :=
    (h.network handle (by simp)).wait hwait
  refine ⟨h.replace hnetwork hrole (fun h => hstarted.trans h) nofun ?_, hended, hstop⟩
  intro others hothers
  rw [Handle.holding?_eq_none hended]
  exact haccounted taken others hothers

/-- Starting a service that was just bound keeps the custody. -/
theorem start {service : Role × Binding}
    (h : Custody taken held course (before ++ .ofService 0 service :: after)) {now : Timestamp}
    (hstart : (Handle.ofService 0 service).start now course.machine = (handle', machine', .ok ())) :
    Custody taken held (course.act (.started service.1 true) machine') (before ++ handle' :: after) := by
  have hservice : (Handle.ofService 0 service).OnNetwork := h.network _ (by simp)
  obtain ⟨hnetwork, hrole, hstarted, haccounted⟩ := hservice.start hstart
  refine h.replace hnetwork hrole nofun ?_ (haccounted taken)
  rintro role ⟨⟩
  exact ⟨hrole, hstarted rfl⟩

/-- A service that was just bound and is refused holds nothing. -/
theorem refuse {service : Role × Binding}
    (h : Custody taken held course (before ++ .ofService 0 service :: after)) :
    Custody taken held (course.act (.started service.1 false) course.machine)
      (before ++ { Handle.ofService 0 service with phase := .refused } :: after) := by
  have hservice : (Handle.ofService 0 service).OnNetwork := h.network _ (by simp)
  refine h.replace ⟨hservice.seat, nofun, nofun⟩ rfl nofun ?_ fun _ hothers => hothers
  exact fun role hdeed => nomatch hdeed

/-- Asking services to end keeps the custody. -/
theorem stopAll (h : Custody taken held course handles) :
    Custody taken held (course.stopAll handles).1 (handles.map Handle.stop) := by
  have hholdings : (handles.map Handle.stop).filterMap Handle.holding? =
      handles.filterMap Handle.holding? := by
    rw [List.filterMap_map]
    rfl
  refine ⟨fun handle hhandle => ?_, ?_, fun role hdeed => ?_⟩
  · obtain ⟨original, horiginal, rfl⟩ := List.mem_map.1 hhandle
    exact (h.network original horiginal).stop
  · rw [hholdings, Course.stopAll_eq]
    exact h.accounted
  · have hbefore : .started role true ∈ course.deeds := by simpa using hdeed
    obtain ⟨original, horiginal, hrole, hstarted⟩ := h.started role hbefore
    exact ⟨original.stop, List.mem_map_of_mem horiginal, hrole, hstarted⟩

end Custody

/-! ## §3 Starting and Giving Up -/

namespace Course

/-- Waiting for services that were asked to end comes to its end with all of them, and none of them runs
    any more. -/
theorem waitAll_custody (course : Course) (handles waited : List Handle)
    (h : Custody taken held course (waited ++ handles))
    (hstop : ∀ handle ∈ handles, handle.stopRequested) :
    (course.waitAll handles).2.2 = none ∧
      Custody taken held (course.waitAll handles).1 (waited ++ (course.waitAll handles).2.1) ∧
      ∀ handle ∈ (course.waitAll handles).2.1, handle.isRunning = false ∧ handle.stopRequested := by
  induction handles generalizing course waited with
  | nil => exact ⟨rfl, h, by simp [waitAll]⟩
  | cons handle handles ih =>
    have hhandle := hstop handle (List.mem_cons_self ..)
    obtain ⟨handle', machine', hwait⟩ := handle.wait_of_stopRequested hhandle course.machine
    obtain ⟨hcustody, hended, hasked⟩ := h.wait handle.role hwait
    -- a loop on the network does not take the waiting along
    have hquiet : handle.panic? = none := by
      have hnot := (h.network handle (by simp)).verdict_ne_panicked
      unfold Handle.panic?
      split
      · rename_i task message hverdict
        exact absurd hverdict (hnot task message)
      · rfl
    rw [waitAll_cons course handle handles hhandle]
    simp only [hquiet, hwait]
    obtain ⟨hfault, hrest, hall⟩ := ih (course.act (.joined handle.role) machine') (waited ++ [handle'])
      (by simpa using hcustody) fun other hother => hstop other (List.mem_cons_of_mem _ hother)
    refine ⟨hfault, by simpa using hrest, ?_⟩
    intro other hother
    rcases List.mem_cons.1 hother with rfl | hmem
    · exact ⟨hended, hasked.trans hhandle⟩
    · exact hall other hmem

end Course

/-- The services of a course hold nothing: each that was started has ended, and all of them were asked to
    end if some service was refused.  What else is held is `held`. -/
structure Released (taken : List Endpoint) (held : List Holding) (course : Course) : Prop where
  accounted : Accounted taken held course.machine
  network : ∀ handle ∈ course.handles, handle.OnNetwork
  ended : ∀ handle ∈ course.handles, handle.isRunning = false
  started : ∀ role, .started role true ∈ course.deeds →
    ∃ handle ∈ course.handles, handle.role = role ∧ handle.hasStarted
  asked : ∀ role, .started role false ∈ course.deeds → ∀ handle ∈ course.handles, handle.stopRequested

/-- Services that do not run hold nothing. -/
theorem Custody.released {course : Course} (h : Custody taken held course course.handles)
    (hended : ∀ handle ∈ course.handles, handle.isRunning = false)
    (hasked : ∀ role, .started role false ∈ course.deeds →
      ∀ handle ∈ course.handles, handle.stopRequested) : Released taken held course := by
  have hnone : course.handles.filterMap Handle.holding? = [] :=
    List.filterMap_eq_nil_iff.2 fun handle hhandle => Handle.holding?_eq_none (hended handle hhandle)
  have haccounted := h.accounted
  rw [hnone, List.nil_append] at haccounted
  exact ⟨haccounted, h.network, hended, h.started, hasked⟩

/-- The course may go on without starts. -/
theorem Released.congr {course course' : Course} (h : Released taken held course)
    (hdeeds : ∀ role succeeded, .started role succeeded ∈ course'.deeds →
      .started role succeeded ∈ course.deeds) (hhandles : course'.handles = course.handles)
    {held' : List Holding} (haccounted : Accounted taken held' course'.machine) :
    Released taken held' course' := by
  refine ⟨haccounted, ?_, ?_, ?_, ?_⟩
  all_goals
    rw [hhandles]
  · exact h.network
  · exact h.ended
  · exact fun role hdeed => h.started role (hdeeds role true hdeed)
  · exact fun role hdeed => h.asked role (hdeeds role false hdeed)

namespace Supervisor

theorem publish_custody {course : Course} {handles : List Handle} (handle : Handle)
    (h : Custody taken held course handles) : Custody taken held (publish course handle) handles := by
  obtain ⟨hsockets, htasks⟩ := Readiness.markRole_frame course.machine handle.role
  exact h.congr (by simp) hsockets htasks

/-- Starting services keeps the custody.  When all of them were started, all of them run. -/
theorem startAll_custody (now : Timestamp) (bound : List (Role × Binding)) (course : Course)
    (started : List Handle)
    (h : Custody taken held course (started.reverse ++ bound.map (Handle.ofService 0)))
    (hrunning : ∀ handle ∈ started, handle.isRunning)
    (hnone : ∀ role, .started role false ∉ course.deeds) :
    let begun := startAll now course started (bound.map (Handle.ofService 0))
    Custody taken held begun.1 begun.2.1 ∧
      (begun.2.2 = .ok () → (∀ handle ∈ begun.2.1, handle.isRunning) ∧
        ∀ role, .started role false ∉ begun.1.deeds) := by
  induction bound generalizing course started with
  | nil =>
    refine ⟨by simpa [startAll] using h, fun _ => ⟨fun handle hhandle => ?_, hnone⟩⟩
    exact hrunning handle (List.mem_reverse.1 hhandle)
  | cons service bound ih =>
    have hcons := startAll_cons now course started 0 service (bound.map (Handle.ofService 0))
    rw [List.map_cons] at h ⊢
    cases hfault : service.2.seat.startFault? service.1 course.machine.sockets with
    | some cause =>
      -- the refused service and those behind it hold nothing
      simp only [hfault] at hcons
      rw [hcons]
      refine ⟨h.refuse, ?_⟩
      rintro ⟨⟩
    | none =>
      simp only [hfault] at hcons
      obtain ⟨state, machine, hstart, -, -, hnext⟩ := hcons
      rw [hnext]
      have hstarted := publish_custody (.ofRunning 0 service state) (h.start hstart)
      refine ih _ _ (by simpa using hstarted) (fun handle hhandle => ?_) (by simpa using hnone)
      rcases List.mem_cons.1 hhandle with rfl | hbefore
      · rfl
      · exact hrunning handle hbefore

/-- Giving up comes to the error that was there before, and releases everything. -/
theorem giveUp_custody {course : Course} {handles : List Handle}
    (h : Custody taken held course handles) (error : BootstrapError) :
    (giveUp course handles error).2 = .failed error ∧
      Released taken held (giveUp course handles error).1 := by
  have hstop : ∀ handle ∈ handles.map Handle.stop, handle.stopRequested := by
    intro handle hhandle
    obtain ⟨_, -, rfl⟩ := List.mem_map.1 hhandle
    rfl
  have hhandles : (course.stopAll handles).2 = handles.map Handle.stop := by
    rw [Course.stopAll_eq]
  obtain ⟨hfault, hcustody, hall⟩ :=
    (course.stopAll handles).1.waitAll_custody (handles.map Handle.stop) [] h.stopAll hstop
  simp only [giveUp, hhandles]
  rcases hwait : (course.stopAll handles).1.waitAll (handles.map Handle.stop) with
    ⟨waited, left, fault?⟩
  rw [hwait] at hfault hcustody hall
  obtain rfl : fault? = none := hfault
  have hkept : Custody taken held (waited.keep left) left := hcustody.congr (by simp) rfl rfl
  refine ⟨rfl, hkept.released (fun handle h => (hall handle h).1) ?_⟩
  exact fun _ _ handle h => (hall handle h).2

end Supervisor

/-! ## §4 Waiting in Every Order -/

namespace Join

/-- The custody of the services that are waited for.  A service runs just as long as its place is
    pending. -/
structure Guards (taken : List Endpoint) (held : List Holding) (join : Join) : Prop where
  custody : Custody taken held join.course join.handles
  running : ∀ place handle, join.handles[place]? = some handle →
    (handle.isRunning ↔ place ∈ join.pending)

namespace Guards

variable {handles : List Handle} {join : Join}

/-- The wait begins when all services run. -/
theorem begin {course : Course} (h : Custody taken held course handles)
    (hrunning : ∀ handle ∈ handles, handle.isRunning) : Guards taken held (.begin course handles) := by
  refine ⟨h, fun place handle hget => ?_⟩
  have hlt : place < handles.length := (List.getElem?_eq_some_iff.1 hget).1
  simp [Join.begin, hrunning handle (List.mem_of_getElem? hget), hlt]

theorem poll (h : Guards taken held join) : Guards taken held join.poll := by
  unfold Join.poll
  split
  · exact h
  · exact ⟨h.custody.congr (by simp) rfl rfl, h.running⟩

theorem stopOnce (h : Guards taken held join) : Guards taken held join.stopOnce := by
  unfold Join.stopOnce
  split
  · exact h
  · have hcustody := h.custody.stopAll
    have hhandles : (join.course.stopAll join.handles).2 = join.handles.map Handle.stop := by
      rw [Course.stopAll_eq]
    rw [← hhandles] at hcustody
    refine ⟨hcustody, fun place handle hget => ?_⟩
    simp only [hhandles, List.getElem?_map] at hget
    obtain ⟨original, horiginal, rfl⟩ := Option.map_eq_some_iff.1 hget
    exact h.running place original horiginal

theorem shutDown (h : Guards taken held join) (signal? : Option Log.Signal) :
    Guards taken held (join.shutDown signal?) := by
  unfold Join.shutDown
  split
  · exact h
  · apply stopOnce
    cases signal? with
    | none => exact ⟨h.custody.congr (by simp [hear]) rfl rfl, h.running⟩
    | some signal => exact ⟨h.custody.congr (by simp [hear]) rfl rfl, h.running⟩

theorem conclude (h : Guards taken held join) (role : Role) (result : Except LoopFault Unit) :
    Guards taken held (join.conclude role result) := by
  unfold Join.conclude
  split
  · exact ⟨h.custody.congr (by simp) rfl rfl, h.running⟩
  · rename_i fault
    have hstopped : Guards taken held
        { join with course := join.course.report (.serviceFailed role (causeOf fault)) }.stopOnce :=
      stopOnce ⟨h.custody.congr (by simp) rfl rfl, h.running⟩
    exact ⟨hstopped.custody, hstopped.running⟩

/-- With the end of a service, its place is no longer pending and it runs no more. -/
theorem see (h : Guards taken held join) {place : Nat} {handle handle' : Handle} {machine : Machine}
    {result : Except LoopFault Unit} (hnodup : join.pending.Nodup)
    (hget : join.handles[place]? = some handle)
    (hwait : handle.wait join.course.machine = (handle', machine, some result)) :
    Guards taken held (join.see place handle' machine result) := by
  obtain ⟨hlt, hat⟩ := List.getElem?_eq_some_iff.1 hget
  obtain ⟨before, after, hsplit, -, hset⟩ :
      ∃ before after, join.handles = before ++ join.handles[place] :: after ∧ before.length = place ∧
        join.handles.set place handle' = before ++ handle' :: after := List.exists_of_set hlt
  have hcustody := h.custody
  rw [hsplit, hat] at hcustody
  obtain ⟨hwaited, hended, -⟩ := hcustody.wait handle'.role hwait
  rw [← hset] at hwaited
  refine ⟨hwaited, fun other handle'' hother => ?_⟩
  simp only [Join.see] at hother ⊢
  -- the place is pending no more, and all others are as before
  by_cases hsame : other = place
  · subst hsame
    rw [List.getElem?_set_self hlt] at hother
    cases hother
    simp [hended, hnodup.not_mem_erase]
  · rw [List.getElem?_set_ne (Ne.symm hsame)] at hother
    rw [hnodup.mem_erase_iff, h.running other handle'' hother]
    simp [hsame]

theorem complete (h : Guards taken held join) (hdrains : Drains handles join) (place : Nat) :
    Guards taken held (join.complete place) := by
  obtain hsame | ⟨handle, handle', machine, -, hget, -, -, hwait, -, hcomplete⟩ :=
    hdrains.complete_cases place
  · rw [hsame]
    exact h
  · rw [hcomplete]
    exact (h.see (List.nodup_append.1 hdrains.nodup).2.1 hget hwait).conclude _ _

theorem step (h : Guards taken held join) (hdrains : Drains handles join) (happening : Happening) :
    Guards taken held (join.step happening) := by
  cases happening with
  | shutdown signal? => exact h.poll.shutDown signal?
  | ended place => exact h.poll.complete hdrains.poll place

/-- Whatever happens, and in whatever order, the custody is kept. -/
theorem run (h : Guards taken held join) (hdrains : Drains handles join) (happenings : List Happening) :
    Guards taken held (join.run happenings) := by
  induction happenings generalizing join with
  | nil => exact h
  | cons happening happenings ih => exact ih (h.step hdrains happening) (hdrains.step happening)

/-- When every end was seen, no service runs. -/
theorem not_isRunning (h : Guards taken held join) (hdone : join.isDone) :
    ∀ handle ∈ join.handles, handle.isRunning = false := by
  intro handle hhandle
  obtain ⟨place, hget⟩ := List.mem_iff_getElem?.1 hhandle
  have hnone : join.pending = [] := List.isEmpty_iff.1 hdone
  apply Bool.eq_false_iff.2
  intro hrunning
  have hplace := (h.running place handle hget).1 hrunning
  rw [hnone] at hplace
  cases hplace

/-- When some end was not seen, some service runs. -/
theorem exists_isRunning (h : Guards taken held join) (hdrains : Drains handles join)
    (hopen : ¬ join.isDone) : ∃ handle ∈ join.handles, handle.isRunning := by
  obtain ⟨place, hplace⟩ : ∃ place, place ∈ join.pending :=
    List.exists_mem_of_ne_nil _ fun hnone => hopen (List.isEmpty_iff.2 hnone)
  have hlt : place < join.handles.length := by
    rw [hdrains.length]
    exact List.mem_range.1 (hdrains.places.mem_iff.1 (List.mem_append_right _ hplace))
  have hget : join.handles[place]? = some join.handles[place] := List.getElem?_eq_getElem hlt
  exact ⟨join.handles[place], List.getElem_mem hlt, (h.running place _ hget).2 hplace⟩

end Guards

end Join

/-! ## §5 The Run -/

/-- No service was started yet, and nothing is held beside `held`. -/
structure Untouched (taken : List Endpoint) (held : List Holding) (course : Course) : Prop where
  accounted : Accounted taken held course.machine
  handles : course.handles = []
  deeds : ∀ role succeeded, .started role succeeded ∉ course.deeds

namespace Untouched

variable {course : Course} {held' : List Holding}

/-- The course may go on without starts. -/
theorem act (h : Untouched taken held course) (deed : Deed)
    (hdeed : ∀ role succeeded, deed ≠ .started role succeeded) {machine : Machine}
    (haccounted : Accounted taken held' machine) :
    Untouched taken held' (course.act deed machine) := by
  refine ⟨haccounted, h.handles, fun role succeeded hmem => ?_⟩
  rw [Course.deeds_act] at hmem
  rcases List.mem_append.1 hmem with hold | hnew
  · exact h.deeds role succeeded hold
  · exact hdeed role succeeded (List.mem_singleton.1 hnew).symm

/-- Reports and states of the lifecycle do not matter. -/
theorem report (h : Untouched taken held course) (event : Log.Event) :
    Untouched taken held (course.report event) :=
  h.act .reported nofun (h.accounted.congr rfl rfl)

theorem enter (h : Untouched taken held course) (next : Lifecycle) :
    Untouched taken held (course.enter next) := by
  have haccounted : Accounted taken held
      (course.machine.report (.stateChanged course.lifecycle next)) := h.accounted.congr rfl rfl
  have hentered := h.act (.entered next) nofun haccounted
  exact ⟨hentered.accounted, hentered.handles, hentered.deeds⟩

theorem within (h : Untouched taken held course) (environment : Environment) :
    Untouched taken held (course.within environment) :=
  ⟨h.accounted, h.handles, h.deeds⟩

/-- Services that were just bound hold nothing. -/
theorem custody (h : Untouched taken held course) {handles : List Handle}
    (hbound : ∀ handle ∈ handles, handle.OnNetwork ∧ handle.holding? = none) :
    Custody taken held course handles := by
  refine ⟨fun handle hhandle => (hbound handle hhandle).1, ?_,
    fun role hdeed => absurd hdeed (h.deeds role true)⟩
  rw [List.filterMap_eq_nil_iff.2 fun handle hhandle => (hbound handle hhandle).2]
  exact h.accounted

/-- Everything was released when no service was started. -/
theorem released (h : Untouched taken held course) : Released taken held course := by
  have hnone : ∀ handle, handle ∉ course.handles := by
    rw [h.handles]
    exact fun _ => nofun
  have hcustody : Custody taken held course course.handles :=
    h.custody fun handle hhandle => absurd hhandle (hnone handle)
  exact hcustody.released (fun handle hhandle => absurd hhandle (hnone handle))
    fun role hdeed => absurd hdeed (h.deeds role false)

end Untouched

/-- Nothing is left: all services were released, and the pages are served no more. -/
structure Cleared (taken : List Endpoint) (course : Course) : Prop
    extends Released taken [] course where
  pages : course.environment?.bind (·.webServer?) = none

/-- With the environment, what the server of its pages held is given back. -/
theorem Released.leave {course : Course} {environment : Environment}
    (h : Released taken environment.holding?.toList course) :
    Cleared taken (course.leave environment) := by
  obtain ⟨hpages, haccounted⟩ := Environment.shutdown_accounted h.accounted
  have hreleased : Released taken [] (course.leave environment) := by
    refine h.congr ?_ ?_ haccounted
    · simp
    · rfl
  exact ⟨hreleased, hpages⟩

namespace Supervisor

/-- A part of a run waits for a service that still runs, or it has come to an end of the given kind. -/
def Settles (kind : Course → Prop) (lived : Course × Result) : Prop :=
  (lived.2 = .unfinished ∧ ∃ handle ∈ lived.1.handles, handle.isRunning) ∨
    ((∃ outcome, lived.2 = .finished outcome) ∧ kind lived.1)

/-- The daemon waits until all services have ended, and then everything is released. -/
theorem settles_waitForServices (supervisor : Supervisor) {course : Course} {handles : List Handle}
    (h : Custody taken held course handles) (hrunning : ∀ handle ∈ handles, handle.isRunning)
    (hnone : ∀ role, .started role false ∉ course.deeds) :
    Settles (Released taken held) (supervisor.waitForServices course handles) := by
  have hblocked : Custody taken held (blocked course) handles := h.congr (by simp [blocked]) rfl rfl
  have hdrains := (Join.Drains.begin (blocked course) handles).run supervisor.happenings
  have hguards := (Join.Guards.begin hblocked hrunning).run
    (Join.Drains.begin (blocked course) handles) supervisor.happenings
  have hidle := (Join.leadsIdle_run (.begin (blocked course) handles) supervisor.happenings).extends
  obtain ⟨hopen, hwait⟩ | ⟨result, hresult, hwait⟩ := supervisor.waitForServices_cases course handles
  · -- some end is missing, and the service of its place still runs
    have hopen' : ¬ ((Join.begin (blocked course) handles).run supervisor.happenings).isDone := by
      rw [← Join.isSome_result?, hopen]
      exact Bool.false_ne_true
    rw [hwait]
    exact .inl ⟨rfl, hguards.exists_isRunning hdrains hopen'⟩
  · have hdone : ((Join.begin (blocked course) handles).run supervisor.happenings).isDone := by
      rw [← Join.isSome_result?, hresult]
      rfl
    have hleft : Custody taken held (supervisor.waitForServices course handles).1
        (supervisor.waitForServices course handles).1.handles := by
      rw [hwait]
      exact hguards.custody.congr (by simp) rfl rfl
    rw [hwait] at hleft ⊢
    refine .inr ⟨⟨result, rfl⟩, hleft.released (hguards.not_isRunning hdone) fun role hdeed => ?_⟩
    -- the deeds of the wait are no starts, and all starts before it have succeeded
    have hbefore : .started role false ∈ (blocked course).deeds :=
      hidle.mem_of_mem (by simp [Deed.isIdle]) (by simpa using hdeed)
    exact absurd (by simpa [blocked] using hbefore) (hnone role)

variable {supervisor : Supervisor} {interface : Address} {loop : Role → Loop}

/-- On the network, every service can be bound, and what was just bound holds nothing. -/
theorem bound_network (interface : Address) (loop : Role → Loop) (services : List (Role × UInt16)) :
    services.findSome? (Transport.network interface loop).bindError? = none ∧
      ∀ service ∈ (Transport.network interface loop).bound services,
        (Handle.ofService 0 service).OnNetwork ∧ (Handle.ofService 0 service).holding? = none := by
  refine ⟨List.findSome?_eq_none_iff.2 fun service _ => rfl, ?_⟩
  rintro ⟨role, binding⟩ hmem
  obtain ⟨port, -, hbind⟩ := Transport.exists_of_mem_bound hmem
  cases hbind
  exact ⟨⟨⟨⟨interface, port⟩, rfl⟩, nofun, nofun⟩, rfl⟩

/-- Binding services on the network gives all their handles, and starts none of them. -/
theorem activate_custody (interface : Address) (loop : Role → Loop) (services : List (Role × UInt16))
    {course : Course} (h : Untouched taken held course) :
    let bound := course.activate (.network interface loop) 0 services
    let handles := ((Transport.network interface loop).bound services).map (Handle.ofService 0)
    bound.2 = .ok handles ∧ Custody taken held (starting bound.1) handles ∧
      ∀ role succeeded, .started role succeeded ∉ (starting bound.1).deeds := by
  intro bound handles
  obtain ⟨hleads, ⟨log, hmachine⟩, hresult⟩ :=
    course.activate_spec (.network interface loop) 0 services
  obtain ⟨hbindable, hnetwork⟩ := bound_network interface loop services
  rw [hbindable] at hresult
  have hunstarted : ∀ role succeeded, .started role succeeded ∉ (starting bound.1).deeds := by
    intro role succeeded hdeed
    refine h.deeds role succeeded (hleads.extends.mem_of_mem (by simp [Deed.isBinding]) ?_)
    simpa [starting] using hdeed
  have hidle : Custody taken held course handles := by
    refine h.custody fun handle hhandle => ?_
    obtain ⟨service, hservice, rfl⟩ := List.mem_map.1 hhandle
    exact hnetwork service hservice
  refine ⟨hresult, hidle.congr ?_ ?_ ?_, hunstarted⟩
  · exact fun role hdeed => absurd hdeed (hunstarted role true)
  · calc (starting bound.1).machine.sockets = bound.1.machine.sockets := rfl
      _ = course.machine.sockets := by rw [hmachine]
  · calc (starting bound.1).machine.taskLists = bound.1.machine.taskLists := rfl
      _ = course.machine.taskLists := by rw [hmachine]

variable {supervisor : Supervisor} {interface : Address} {loop : Role → Loop}

/-- With an environment, a run waits for a service, or it releases everything but what the server of the
    pages holds. -/
theorem settles_runServices (htransport : supervisor.transport = .network interface loop)
    (roles : EnabledRoles) {environment : Environment} (htasks : environment.tasks = 0)
    {course : Course} (h : Untouched taken held course) :
    Settles (Released taken held) (supervisor.runServices roles environment course) := by
  have hcreated := h.act .serviceCreated nofun h.accounted
  obtain ⟨hbound, hcustody, hunstarted⟩ := activate_custody interface loop roles.toList hcreated
  obtain ⟨hstarted, hall⟩ := startAll_custody supervisor.now
    ((Transport.network interface loop).bound roles.toList) _ [] hcustody (by simp)
    fun role => hunstarted role false
  have hcases := supervisor.runServices_cases roles environment course
  rw [htransport, htasks] at hcases
  obtain ⟨error, herror, -⟩ | ⟨handles, hhandles, hserved⟩ := hcases
  · cases hbound.symm.trans herror
  · cases hbound.symm.trans hhandles
    obtain ⟨error, -, hrun⟩ | ⟨-, cause, -, hrun⟩ | ⟨hok, machine, hmark, hrun⟩ := hserved
    · -- some service was refused
      rw [hrun]
      obtain ⟨hfailed, hreleased⟩ := giveUp_custody hstarted error
      exact .inr ⟨⟨_, hfailed⟩, hreleased⟩
    · -- the daemon cannot be published
      rw [hrun]
      obtain ⟨hfailed, hreleased⟩ := giveUp_custody hstarted (.readiness cause)
      exact .inr ⟨⟨_, hfailed⟩, hreleased⟩
    · -- all services run, and the daemon waits for them
      rw [hrun]
      obtain ⟨hrunning, hnone⟩ := hall hok
      obtain ⟨-, rfl⟩ := Readiness.ready_of_markServer hmark
      refine supervisor.settles_waitForServices (hstarted.congr ?_ rfl rfl) hrunning ?_
      · intro role hdeed
        simpa using hdeed
      · intro role hdeed
        exact hnone role (by simpa using hdeed)

/-- The environment is taken down when the run in it has come to its end. -/
theorem settles_runRoles (htransport : supervisor.transport = .network interface loop)
    (roles : EnabledRoles) {course : Course} (h : Untouched taken [] course)
    (hlists : course.machine.taskLists = []) (hpages : course.environment? = none) :
    Settles (Cleared taken) (supervisor.runRoles roles course) := by
  have hnone : course.environment?.bind (·.webServer?) = none := by rw [hpages]; rfl
  have hnamed := h.report
    (.identityGenerated (.generate supervisor.config.hostname roles.primaryPort))
  obtain ⟨hrefused, hinit⟩ := Environment.init_accounted
    (.generate supervisor.config.hostname roles.primaryPort) supervisor.config supervisor.now
    hnamed.accounted hlists
  obtain ⟨cause, hbuilt, hrun⟩ | ⟨environment, hbuilt, hserved⟩ :=
    supervisor.runRoles_cases roles course
  · rw [hrun]
    have hfailed := hnamed.act (.environmentBuilt false) nofun (hrefused cause hbuilt)
    exact .inr ⟨⟨_, rfl⟩, hfailed.released, hnone⟩
  · obtain ⟨htasks, haccounted⟩ := hinit environment hbuilt
    have hwithin := (hnamed.act (.environmentBuilt true) nofun haccounted).within environment
    obtain ⟨hopen, hrunning⟩ | ⟨⟨outcome, hfinished⟩, hreleased⟩ :=
      settles_runServices htransport roles htasks hwithin
    · obtain ⟨⟨result, hresult⟩, -⟩ | ⟨-, hrun⟩ := hserved
      · cases hopen.symm.trans hresult
      · rw [hrun]
        exact .inl ⟨hopen, hrunning⟩
    · obtain ⟨-, hrun⟩ | ⟨hother, -⟩ := hserved
      · rw [hrun]
        exact .inr ⟨⟨outcome, hfinished⟩, hreleased.leave⟩
      · exact absurd hfinished (hother outcome)

/-- A run waits for a service or leaves nothing. -/
theorem settles_runLifecycle (htransport : supervisor.transport = .network interface loop)
    {course : Course} (h : Untouched taken [] course) (hlists : course.machine.taskLists = [])
    (hpages : course.environment? = none) :
    Settles (Cleared taken) (supervisor.runLifecycle course) := by
  have hnone : course.environment?.bind (·.webServer?) = none := by rw [hpages]; rfl
  obtain ⟨error, -, hrun⟩ | ⟨roles, -, ⟨error, -, hrun⟩ | ⟨names, -, hrun⟩⟩ :=
    supervisor.runLifecycle_cases course
  · rw [hrun]
    exact .inr ⟨⟨_, rfl⟩, h.released, hnone⟩
  all_goals
    have hbooted : Untouched taken [] (supervisor.booted course) :=
      h.act (.bootstrapped _) nofun (h.accounted.congr rfl rfl)
    rw [hrun]
  · exact .inr ⟨⟨_, rfl⟩, hbooted.released, hnone⟩
  · exact settles_runRoles htransport roles hbooted hlists hpages

/-- The whole run waits for a service or leaves nothing. -/
theorem settles_run (htransport : supervisor.transport = .network interface loop) {machine : Machine}
    (h : Accounted taken [] machine) (hlists : machine.taskLists = []) :
    Settles (Cleared taken) (supervisor.run machine) := by
  have hstart : Untouched taken [] ((Course.start machine).enter .init) :=
    Untouched.enter ⟨h, rfl, by simp [Course.start, Course.deeds]⟩ .init
  have hlived := settles_runLifecycle htransport hstart hlists rfl
  obtain ⟨error, herror, hrun⟩ | ⟨-, hrun⟩ := supervisor.run_cases machine
  · rw [hrun]
    obtain ⟨hopen, -⟩ | ⟨-, hcleared⟩ := hlived
    · cases hopen.symm.trans herror
    · refine .inr ⟨⟨_, rfl⟩, ?_, hcleared.pages⟩
      refine hcleared.toReleased.congr ?_ ?_ (hcleared.accounted.congr rfl rfl)
      · simp
      · rfl
  · rw [hrun]
    exact hlived

/-- **A run leaves nothing** on the network, for every configuration and list of steps, whatever others
    listen on, however each service loop goes on, and whatever happens while the daemon waits.  Either
    the run has not returned, because some service still runs, or it has returned, and:

    - what is listened on is what others listened on before, no task is live, and the pages are served
      no more;
    - each service whose start succeeded has ended, and was waited for;
    - no service runs, and when some service was refused, all were asked to end. -/
theorem run_releases (supervisor : Supervisor) (taken : List Endpoint) {interface : Address}
    {loop : Role → Loop} (htransport : supervisor.transport = .network interface loop) :
    let course := (supervisor.runFresh taken).1
    let result := (supervisor.runFresh taken).2
    (result = .unfinished ∧ ∃ handle ∈ course.handles, handle.isRunning) ∨
    ((∃ outcome, result = .finished outcome) ∧
      course.machine.sockets.listening = taken ∧
      (∀ tasks ∈ course.machine.taskLists, tasks.live = []) ∧
      course.environment?.bind (·.webServer?) = none ∧
      (∀ role, .started role true ∈ course.deeds → ∃ handle ∈ course.handles,
        handle.role = role ∧ (∃ port, handle.phase = .ended port) ∧ handle.awaited) ∧
      (∀ handle ∈ course.handles, handle.isRunning = false) ∧
      (∀ role, .started role false ∈ course.deeds →
        ∀ handle ∈ course.handles, handle.stopRequested)) := by
  intro course result
  have hfresh : Accounted taken [] (Readiness.register (.fresh taken)).1 := by
    rw [Readiness.register_fresh]
    exact ⟨⟨[], by simp [Machine.fresh], List.Perm.nil⟩, nofun, Nat.zero_le 1, nofun, nofun⟩
  have hrun : supervisor.runFresh taken = supervisor.run (Readiness.register (.fresh taken)).1 := rfl
  have hlists : (Readiness.register (.fresh taken)).1.taskLists = [] := by
    rw [Readiness.register_fresh]
    rfl
  have hsettles := settles_run htransport hfresh hlists
  rw [← hrun] at hsettles
  -- nobody holds anything at the end, so that nothing is left
  refine hsettles.imp_right fun ⟨hfinished, hcleared⟩ => ?_
  obtain ⟨hlistening, htasks⟩ := hcleared.accounted.of_nil
  refine ⟨hfinished, hlistening, htasks, hcleared.pages, fun role hdeed => ?_, hcleared.ended,
    hcleared.asked⟩
  obtain ⟨handle, hhandle, hrole, hstarted⟩ := hcleared.started role hdeed
  obtain ⟨port, hport⟩ := Handle.ended_of_hasStarted hstarted (hcleared.ended handle hhandle)
  exact ⟨handle, hhandle, hrole, ⟨port, hport⟩, (hcleared.network handle hhandle).ended port hport⟩

/-- A daemon whose two services are to listen on the same port. -/
def samePort : Supervisor where
  config := { Config.default "node-1" with workerPort := 12050 }
  steps := []
  transport := .http (.v4 .unspecified)
  now := ⟨"2026-01-01T00:00:00"⟩
  happenings := []

/-- The planner is started and the worker is refused; the planner has ended when the error is returned,
    and only the listener of another process is left. -/
theorem run_releases_samePort :
    let taken : List Endpoint := [⟨.v4 .unspecified, 13050⟩]
    let course := (samePort.runFresh taken).1
    samePort.transport = .network (.v4 .unspecified) (fun _ => .serves) ∧
    .started .planner true ∈ course.deeds ∧ .started .worker false ∈ course.deeds ∧
    course.machine.sockets.listening = taken ∧
    ∃ handle ∈ course.handles, handle.role = .planner ∧ (∃ port, handle.phase = .ended port) ∧
      handle.stopRequested ∧ handle.awaited := by
  intro taken course
  have htransport : samePort.transport = .network (.v4 .unspecified) (fun _ => .serves) := rfl
  have hdone : .started .planner true ∈ course.deeds ∧ .started .worker false ∈ course.deeds ∧
      course.handles.all (!·.isRunning) := by decide +kernel
  have hreleased := samePort.run_releases taken htransport
  -- what is left to show does not depend on how the run goes
  simp only [course] at hdone ⊢
  generalize samePort.runFresh taken = ran at hdone hreleased ⊢
  obtain ⟨hplanner, hworker, hall⟩ := hdone
  obtain ⟨-, handle, hhandle, hrunning⟩ | ⟨-, hlistening, -, -, hstarted, -, hasked⟩ := hreleased
  · have hended := List.all_eq_true.1 hall handle hhandle
    simp [hrunning] at hended
  · obtain ⟨handle, hhandle, hrole, hended, hawaited⟩ := hstarted .planner hplanner
    exact ⟨htransport, hplanner, hworker, hlistening, handle, hhandle, hrole, hended,
      hasked .worker hworker handle hhandle, hawaited⟩

end Supervisor

end RoleDaemon

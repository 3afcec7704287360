import RoleDaemon.Proofs.Supervisor.Course
import RoleDaemon.Supervisor.Join
import Mathlib.Data.List.Perm.Basic

/-!
# Every Order of Ends, Failures and Requests

Whatever happens while the daemon waits, and in whatever order, each service ends with its own result,
the first failure in the order of the ends is kept, and the services are asked to end together and
once.

## Architecture

The invariant of the wait has two halves, each of which every happening keeps:
- `Join.Drains`: the ends that were seen and the places that are pending are those of all services
- `Join.Trail`: what was done since the wait began tells what has come up

Main statements:
- `Join.Drains.run`, `Join.Trail.run`: both halves hold after all happenings
- `Join.leadsIdle_run`: nothing is set up or published meanwhile
- `Join.run_settles`: the results, the stops and the looks for the request, for every order
-/

namespace RoleDaemon

/-! ## §1 Reading Ends and Deeds -/

/-- The error that a service ended with, where it ended badly. -/
def Ending.error? (ending : Ending) : Option BootstrapError :=
  match ending.result with
  | .ok () => none
  | .error fault => some (.serviceFailed ending.role (Join.causeOf fault))

namespace Ending

theorem error?_eq_none_iff {ending : Ending} : ending.error? = none ↔ ending.result = .ok () := by
  unfold error?
  split <;> simp_all

theorem error?_eq_some_iff {ending : Ending} {error : BootstrapError} :
    ending.error? = some error ↔ ∃ fault, ending.result = .error fault ∧
      error = .serviceFailed ending.role (Join.causeOf fault) := by
  unfold error?
  split
  · simp_all
  · rename_i fault hresult
    simp only [hresult, Option.some.injEq, Except.error.injEq]
    constructor
    · rintro rfl
      exact ⟨fault, rfl, rfl⟩
    · rintro ⟨_, rfl, rfl⟩
      rfl

end Ending

namespace Deed

/-- The role whose service was waited for. -/
def joinedRole? : Deed → Option Role
  | .joined role => some role
  | _ => none

/-- A service is asked to end. -/
def isStop : Deed → Bool
  | .stopped _ => true
  | _ => false

/-- The request to shut down is looked for, or seen. -/
def isPolling : Deed → Bool
  | .shutdownPolled | .shutdownSeen => true
  | _ => false

/-- The request to shut down was seen, or the stop has begun. -/
def endsPolling : Deed → Bool
  | .shutdownSeen | .stopped _ => true
  | _ => false

end Deed

namespace Join

/-! ## §2 Ends That Were Seen and Ends to Come -/

/-- The ends that were seen and the pending places make up the places of the services, each once.  A
    pending service will end with its own result, and a seen one has. -/
structure Drains (handles : List Handle) (join : Join) : Prop where
  roles : join.handles.map (·.role) = handles.map (·.role)
  places : (join.endings.map (·.place) ++ join.pending).Perm (List.range handles.length)
  pending : ∀ place ∈ join.pending,
    join.handles[place]?.map Handle.verdict = handles[place]?.map Handle.verdict
  endings : ∀ ending ∈ join.endings, ∃ handle, handles[ending.place]? = some handle ∧
    ending.role = handle.role ∧ ending.result = handle.verdict

theorem Drains.begin (course : Course) (handles : List Handle) :
    Drains handles (begin course handles) :=
  ⟨rfl, by simp [Join.begin], fun _ _ => rfl, by simp [Join.begin]⟩

theorem Drains.length {handles : List Handle} {join : Join} (h : Drains handles join) :
    join.handles.length = handles.length := by
  have := congrArg List.length h.roles
  simpa using this

/-- No place is seen twice, or pending after it was seen. -/
theorem Drains.nodup {handles : List Handle} {join : Join} (h : Drains handles join) :
    (join.endings.map (·.place) ++ join.pending).Nodup :=
  h.places.nodup_iff.2 List.nodup_range

theorem Drains.poll {handles : List Handle} {join : Join} (h : Drains handles join) :
    Drains handles join.poll := by
  unfold Join.poll
  split
  · exact h
  · exact ⟨h.roles, h.places, h.pending, h.endings⟩

theorem Drains.stopOnce {handles : List Handle} {join : Join} (h : Drains handles join) :
    Drains handles join.stopOnce := by
  unfold Join.stopOnce
  split
  · exact h
  · rw [Course.stopAll_eq]
    refine ⟨?_, h.places, fun place hplace => ?_, h.endings⟩
    · rw [← h.roles, List.map_map]
      rfl
    · rw [← h.pending place hplace, List.getElem?_map, Option.map_map]
      rfl

theorem Drains.shutDown {handles : List Handle} {join : Join} (h : Drains handles join)
    (signal? : Option Log.Signal) : Drains handles (join.shutDown signal?) := by
  unfold Join.shutDown
  split
  · exact h
  · apply Drains.stopOnce
    exact ⟨h.roles, h.places, h.pending, h.endings⟩

theorem Drains.conclude {handles : List Handle} {join : Join} (h : Drains handles join) (role : Role)
    (result : Except LoopFault Unit) : Drains handles (join.conclude role result) := by
  unfold Join.conclude
  split
  · exact ⟨h.roles, h.places, h.pending, h.endings⟩
  · rename_i fault
    have hstopped : Drains handles
        { join with course := join.course.report (.serviceFailed role (causeOf fault)) }.stopOnce :=
      Drains.stopOnce ⟨h.roles, h.places, h.pending, h.endings⟩
    exact ⟨hstopped.roles, hstopped.places, hstopped.pending, hstopped.endings⟩

/-- What the end of a service can do: nothing, or it is seen, with the result of the service. -/
theorem Drains.complete_cases {handles : List Handle} {join : Join} (h : Drains handles join)
    (place : Nat) :
    join.complete place = join ∨
    ∃ (handle handle' : Handle) (machine : Machine), place ∈ join.pending ∧
      join.handles[place]? = some handle ∧ handles[place]?.map (·.role) = some handle.role ∧
      handles[place]?.map Handle.verdict = some handle.verdict ∧
      handle.wait join.course.machine = (handle', machine, some handle.verdict) ∧
      handle'.role = handle.role ∧
      join.complete place =
        (join.see place handle' machine handle.verdict).conclude handle.role handle.verdict := by
  by_cases hplace : place ∈ join.pending
  · have hrange : place ∈ List.range handles.length :=
      h.places.mem_iff.1 (List.mem_append_right _ hplace)
    have hlt : place < join.handles.length := by
      rw [h.length]
      exact List.mem_range.1 hrange
    obtain ⟨handle, hget⟩ : ∃ handle, join.handles[place]? = some handle :=
      ⟨_, List.getElem?_eq_getElem hlt⟩
    have hrole : handles[place]?.map (·.role) = some handle.role := by
      rw [← List.getElem?_map, ← h.roles, List.getElem?_map, hget]
      rfl
    have hverdict : handles[place]?.map Handle.verdict = some handle.verdict := by
      rw [← h.pending place hplace, hget]
      rfl
    rcases hwait : handle.wait join.course.machine with ⟨handle', machine, _ | result⟩
    · left
      simp [complete, hplace, hget, hwait]
    · right
      have hresult : result = handle.verdict := Handle.wait_result hwait
      have hsame : handle'.role = handle.role := by
        have hframe := (handle.wait_frame join.course.machine).1
        rwa [hwait] at hframe
      subst hresult
      refine ⟨handle, handle', machine, hplace, hget, hrole, hverdict, hwait, hsame, ?_⟩
      simp [complete, hplace, hget, hwait, hsame]
  · left
    simp [complete, hplace]

theorem Drains.see {handles : List Handle} {join : Join} (h : Drains handles join) {place : Nat}
    {handle : Handle} {result : Except LoopFault Unit} (hplace : place ∈ join.pending)
    (hrole : handles[place]?.map (·.role) = some handle.role)
    (hresult : handles[place]?.map Handle.verdict = some result) (machine : Machine) :
    Drains handles (join.see place handle machine result) := by
  unfold Join.see
  refine ⟨?_, ?_, fun place' hplace' => ?_, fun ending hending => ?_⟩
  · -- the roles of the list stay, as the handle keeps its role
    have hget : (join.handles.map (·.role))[place]? = some handle.role := by
      rw [h.roles, List.getElem?_map]
      exact hrole
    obtain ⟨hlt, hsame⟩ := List.getElem?_eq_some_iff.1 hget
    rw [List.map_set, ← hsame, List.set_getElem_self]
    exact h.roles
  · -- the place goes from the pending ones to the seen ones
    refine List.Perm.trans ?_ h.places
    rw [List.map_append, List.append_assoc]
    exact List.Perm.append_left _ (List.perm_cons_erase hplace).symm
  · -- the other pending places keep their handles
    have hne : place' ≠ place := fun heq =>
      (List.nodup_append.1 h.nodup).2.1.not_mem_erase (heq ▸ hplace')
    rw [List.getElem?_set_ne hne.symm]
    exact h.pending place' (List.mem_of_mem_erase hplace')
  · rcases List.mem_append.1 hending with hold | hnew
    · exact h.endings ending hold
    · rw [List.mem_singleton.1 hnew]
      obtain ⟨original, hget, horiginal⟩ := Option.map_eq_some_iff.1 hrole
      refine ⟨original, hget, horiginal.symm, ?_⟩
      rw [hget] at hresult
      exact (Option.some.inj hresult).symm

theorem Drains.complete {handles : List Handle} {join : Join} (h : Drains handles join)
    (place : Nat) : Drains handles (join.complete place) := by
  obtain hsame | ⟨handle, handle', machine, hplace, -, hrole, hverdict, -, hrole', hcomplete⟩ :=
    h.complete_cases place
  · rw [hsame]
    exact h
  · rw [hcomplete]
    exact (h.see hplace (hrole'.symm ▸ hrole) hverdict machine).conclude _ _

theorem Drains.step {handles : List Handle} {join : Join} (h : Drains handles join)
    (happening : Happening) : Drains handles (join.step happening) := by
  cases happening with
  | shutdown signal? => exact h.poll.shutDown signal?
  | ended place => exact h.poll.complete place

theorem Drains.run {handles : List Handle} {join : Join} (h : Drains handles join)
    (happenings : List Happening) : Drains handles (join.run happenings) := by
  induction happenings generalizing join with
  | nil => exact h
  | cons happening happenings ih => exact ih (h.step happening)

/-- Every end was seen just when all places occur among the ends. -/
theorem Drains.isDone_iff {handles : List Handle} {join : Join} (h : Drains handles join) :
    join.isDone ↔ ∀ place < handles.length, place ∈ join.endings.map (·.place) := by
  simp only [isDone, List.isEmpty_iff]
  constructor
  · intro hnone place hlt
    have hmem := h.places.mem_iff.2 (List.mem_range.2 hlt)
    rwa [hnone, List.append_nil] at hmem
  · intro hall
    apply List.eq_nil_iff_forall_not_mem.2
    intro place hplace
    have hrange := h.places.mem_iff.1 (List.mem_append_right _ hplace)
    have hseen := hall place (List.mem_range.1 hrange)
    exact (List.nodup_append.1 h.nodup).2.2 place hseen place hplace rfl

/-! ## §3 What Was Done Since the Wait Began -/

/-- The deeds since the wait began, beside what has come up: the first failure is kept, everything is
    asked to end once the request was seen or something has failed, once and in order, and from then on
    the request is of no interest. -/
structure Trail (course : Course) (handles : List Handle) (join : Join) (since : List Deed) : Prop where
  deeds : join.course.deeds = course.deeds ++ since
  first : join.firstError? = join.endings.findSome? Ending.error?
  latch : join.stopping = true ↔ Deed.shutdownSeen ∈ since ∨ join.firstError?.isSome
  stops : since.filter Deed.isStop =
    if join.stopping then handles.map fun handle => .stopped handle.role else []
  joined : since.filterMap Deed.joinedRole? = join.endings.map (·.role)
  quiet : since.Pairwise fun earlier later => earlier.endsPolling → ¬ later.isPolling

theorem Trail.begin (course : Course) (handles : List Handle) :
    Trail course handles (begin course handles) [] :=
  ⟨by simp [Join.begin], rfl, by simp [Join.begin], rfl, rfl, List.Pairwise.nil⟩

variable {course : Course} {handles : List Handle} {join : Join} {since : List Deed}

/-- As long as the services were not asked to end, no deed has ended the looks for the request. -/
theorem Trail.endsPolling_of_mem (h : Trail course handles join since)
    (hstopping : join.stopping = false) {deed : Deed} (hdeed : deed ∈ since) :
    deed.endsPolling = false := by
  -- the sight of the request, or a stop, would have set the latch
  have hseen : Deed.shutdownSeen ∉ since := by
    intro hmem
    have := h.latch.2 (.inl hmem)
    rw [hstopping] at this
    cases this
  have hstops : since.filter Deed.isStop = [] := by
    rw [h.stops, hstopping]
    rfl
  cases deed with
  | shutdownSeen => exact absurd hdeed hseen
  | stopped role =>
    have hmem : Deed.stopped role ∈ since.filter Deed.isStop := List.mem_filter.2 ⟨hdeed, rfl⟩
    rw [hstops] at hmem
    cases hmem
  | _ => rfl

/-- Deeds that do not look for the request may follow any deeds. -/
theorem quiet_append {more : List Deed}
    (h : since.Pairwise fun earlier later => earlier.endsPolling → ¬ later.isPolling)
    (hmore : ∀ deed ∈ more, ¬ deed.isPolling) :
    (since ++ more).Pairwise fun earlier later => earlier.endsPolling → ¬ later.isPolling := by
  refine List.pairwise_append.2 ⟨h, ?_, fun _ _ later hlater _ => hmore later hlater⟩
  induction more with
  | nil => exact List.Pairwise.nil
  | cons deed more ih =>
    exact List.Pairwise.cons (fun later hlater _ => hmore later (List.mem_cons_of_mem _ hlater))
      (ih fun deed hdeed => hmore deed (List.mem_cons_of_mem _ hdeed))

/-- Deeds of any kind may follow while no deed has ended the looks for the request. -/
theorem Trail.quiet_append_of_open {more : List Deed} (h : Trail course handles join since)
    (hstopping : join.stopping = false)
    (hmore : more.Pairwise fun earlier later => earlier.endsPolling → ¬ later.isPolling) :
    (since ++ more).Pairwise fun earlier later => earlier.endsPolling → ¬ later.isPolling := by
  refine List.pairwise_append.2 ⟨h.quiet, hmore, fun earlier hearlier _ _ hends => ?_⟩
  rw [h.endsPolling_of_mem hstopping hearlier] at hends
  cases hends

/-- Asking all services to end, where that was not done before. -/
theorem stopOnce_of_not_stopping (join : Join) (h : join.stopping = false) :
    join.stopOnce = { join with
      course := (join.course.stopAll join.handles).1
      handles := join.handles.map Handle.stop
      stopping := true } := by
  simp [stopOnce, h, Course.stopAll_eq]

theorem Trail.poll (h : Trail course handles join since) :
    ∃ more, Trail course handles join.poll (since ++ more) := by
  unfold Join.poll
  split
  · exact ⟨[], by rwa [List.append_nil]⟩
  · -- one more look, which nothing has ended yet
    rename_i hstopping
    have hstopping := Bool.eq_false_iff.2 hstopping
    refine ⟨[.shutdownPolled], ?_, h.first, ?_, ?_, ?_, ?_⟩
    · simp [h.deeds]
    · simp [h.latch]
    · rw [List.filter_append, h.stops]
      simp [Deed.isStop]
    · rw [List.filterMap_append, h.joined]
      simp [Deed.joinedRole?]
    · exact h.quiet_append_of_open hstopping (List.pairwise_singleton _ _)

/-- The stops of all services, in order. -/
def stopsOf (handles : List Handle) : List Deed :=
  handles.map fun handle => .stopped handle.role

theorem stopsOf_congr {handles' : List Handle} (h : handles'.map (·.role) = handles.map (·.role)) :
    stopsOf handles' = stopsOf handles := by
  have := congrArg (List.map Deed.stopped) h
  simpa [stopsOf, Function.comp_def] using this

theorem filter_stopsOf (handles : List Handle) :
    (stopsOf handles).filter Deed.isStop = stopsOf handles := by
  apply List.filter_eq_self.2
  intro deed hdeed
  obtain ⟨handle, -, rfl⟩ := List.mem_map.1 hdeed
  rfl

theorem filterMap_stopsOf (handles : List Handle) :
    (stopsOf handles).filterMap Deed.joinedRole? = [] := by
  apply List.filterMap_eq_nil_iff.2
  intro deed hdeed
  obtain ⟨handle, -, rfl⟩ := List.mem_map.1 hdeed
  rfl

theorem not_isPolling_of_mem_stopsOf {deed : Deed} (h : deed ∈ stopsOf handles) :
    ¬ deed.isPolling := by
  obtain ⟨handle, -, rfl⟩ := List.mem_map.1 h
  simp [Deed.isPolling]

theorem Trail.shutDown (hd : Drains handles join) (h : Trail course handles join since)
    (signal? : Option Log.Signal) :
    ∃ more, Trail course handles (join.shutDown signal?) (since ++ more) := by
  unfold Join.shutDown
  split
  · exact ⟨[], by rwa [List.append_nil]⟩
  · rename_i hstopping
    have hstopping := Bool.eq_false_iff.2 hstopping
    rw [stopOnce_of_not_stopping _ (by exact hstopping)]
    -- the signal, where there is one, is told before the request is seen
    obtain ⟨told, htold, hdeeds⟩ : ∃ told : List Deed, (∀ deed ∈ told, deed = .reported) ∧
        (hear join.course signal?).deeds = join.course.deeds ++ told := by
      cases signal? with
      | none => exact ⟨[], by simp, by simp [hear]⟩
      | some signal => exact ⟨[.reported], by simp, by simp [hear]⟩
    have hstops : join.handles.map (fun handle => Deed.stopped handle.role) = stopsOf handles :=
      stopsOf_congr hd.roles
    refine ⟨told ++ [.shutdownSeen, .reported] ++ stopsOf handles, ?_, h.first, ?_, ?_, ?_, ?_⟩
    · simp only [Course.deeds_stopAll, Course.deeds_report, Course.deeds_act, hdeeds, h.deeds, hstops,
        List.append_assoc, List.cons_append, List.nil_append]
    · simp
    · have hnone : told.filter Deed.isStop = [] := by
        apply List.filter_eq_nil_iff.2
        intro deed hdeed
        simp [htold deed hdeed, Deed.isStop]
      simp only [List.filter_append, h.stops, hstopping, hnone, filter_stopsOf]
      rfl
    · have hnone : told.filterMap Deed.joinedRole? = [] := by
        apply List.filterMap_eq_nil_iff.2
        intro deed hdeed
        simp [htold deed hdeed, Deed.joinedRole?]
      simp only [List.filterMap_append, h.joined, hnone, filterMap_stopsOf]
      simp [Deed.joinedRole?]
    · -- the sight of the request ends the looks, and the stops behind it are no looks
      have htoldquiet : (told ++ [Deed.shutdownSeen]).Pairwise
          fun earlier later => earlier.endsPolling → ¬ later.isPolling := by
        apply List.pairwise_append.2
        refine ⟨?_, List.pairwise_singleton _ _, fun earlier hearlier _ _ hends => ?_⟩
        · exact quiet_append List.Pairwise.nil (fun deed hdeed => by
            simp [htold deed hdeed, Deed.isPolling])
        · rw [htold earlier hearlier] at hends
          cases hends
      apply h.quiet_append_of_open hstopping
      have hrest : ∀ deed ∈ Deed.reported :: stopsOf handles, ¬ deed.isPolling := by
        intro deed hdeed
        rcases List.mem_cons.1 hdeed with rfl | hdeed
        · simp [Deed.isPolling]
        · exact not_isPolling_of_mem_stopsOf hdeed
      simpa using quiet_append htoldquiet hrest

/-- A service that ended well leaves everything else as it is. -/
theorem Trail.conclude_ok (h : Trail course handles join since) (place : Nat) (handle : Handle)
    (machine : Machine) {result : Except LoopFault Unit} (hresult : result = .ok ()) :
    Trail course handles ((join.see place handle machine result).conclude handle.role result)
      (since ++ [.joined handle.role, .reported]) := by
  subst hresult
  simp only [conclude, see]
  refine ⟨?_, ?_, ?_, ?_, ?_, ?_⟩
  · simp [h.deeds]
  · simp [h.first, Ending.error?]
  · simp [h.latch]
  · simp [h.stops, Deed.isStop]
  · simp [h.joined, Deed.joinedRole?]
  · exact quiet_append h.quiet (by simp [Deed.isPolling])

/-- A failure is kept where it is the first one, and stops all services where nothing did before. -/
theorem Trail.conclude_error (hd : Drains handles join) (h : Trail course handles join since)
    {place : Nat} {handle : Handle} (hplace : place ∈ join.pending)
    (hrole : handles[place]?.map (·.role) = some handle.role) (machine : Machine)
    {result : Except LoopFault Unit} (hverdict : handles[place]?.map Handle.verdict = some result)
    {fault : LoopFault} (hresult : result = .error fault) :
    ∃ more, Trail course handles
      ((join.see place handle machine result).conclude handle.role result) (since ++ more) := by
  have hroles := (hd.see hplace hrole hverdict machine).roles
  subst hresult
  have hfirst : (join.firstError?.or (some (.serviceFailed handle.role (causeOf fault)))) =
      (join.endings ++ [(⟨place, handle.role, .error fault⟩ : Ending)]).findSome? Ending.error? := by
    rw [List.findSome?_append, ← h.first]
    rfl
  simp only [conclude, see] at hroles ⊢
  cases hstopping : join.stopping with
  | true =>
    -- the services were asked to end before, and are not asked again
    refine ⟨[.joined handle.role, .reported], ?_, ?_, ?_, ?_, ?_, ?_⟩
    · simp [stopOnce, h.deeds]
    · simpa [stopOnce] using hfirst
    · simp [stopOnce]
    · simp [stopOnce, hstopping, h.stops, Deed.isStop]
    · simp [stopOnce, h.joined, Deed.joinedRole?]
    · exact quiet_append h.quiet (by simp [Deed.isPolling])
  | false =>
    -- this failure is the first one, and asks all services to end
    rw [stopOnce_of_not_stopping _ rfl]
    have hstops : (join.handles.set place handle).map (fun handle => Deed.stopped handle.role) =
        stopsOf handles := stopsOf_congr hroles
    refine ⟨[.joined handle.role, .reported] ++ stopsOf handles, ?_, hfirst, ?_, ?_, ?_, ?_⟩
    · simp only [Course.deeds_stopAll, Course.deeds_report, Course.deeds_act, h.deeds, hstops,
        List.append_assoc, List.cons_append, List.nil_append]
    · simp
    · simp only [List.filter_append, h.stops, hstopping, filter_stopsOf]
      rfl
    · simp only [List.filterMap_append, h.joined, filterMap_stopsOf]
      simp [Deed.joinedRole?]
    · apply quiet_append h.quiet
      intro deed hdeed
      rcases List.mem_append.1 hdeed with hdeed | hdeed
      · have : deed = .joined handle.role ∨ deed = .reported := by simpa using hdeed
        rcases this with rfl | rfl <;> simp [Deed.isPolling]
      · exact not_isPolling_of_mem_stopsOf hdeed

theorem Trail.complete (hd : Drains handles join) (h : Trail course handles join since) (place : Nat) :
    ∃ more, Trail course handles (join.complete place) (since ++ more) := by
  obtain hsame | ⟨handle, handle', machine, hplace, -, hrole, hverdict, -, hrole', hcomplete⟩ :=
    hd.complete_cases place
  · exact ⟨[], by rwa [hsame, List.append_nil]⟩
  -- the end was seen with the result of the service, which decides what follows
  rw [hcomplete, ← hrole']
  rw [← hrole'] at hrole
  cases hresult : handle.verdict with
  | ok _ => exact ⟨_, h.conclude_ok place handle' machine rfl⟩
  | error fault => exact h.conclude_error hd hplace hrole machine (hresult ▸ hverdict) rfl

theorem Trail.step (hd : Drains handles join) (h : Trail course handles join since)
    (happening : Happening) :
    ∃ more, Trail course handles (join.step happening) (since ++ more) := by
  obtain ⟨looked, hpoll⟩ := h.poll
  cases happening with
  | shutdown signal? =>
    obtain ⟨more, hmore⟩ := hpoll.shutDown hd.poll signal?
    exact ⟨looked ++ more, by rwa [← List.append_assoc]⟩
  | ended place =>
    obtain ⟨more, hmore⟩ := hpoll.complete hd.poll place
    exact ⟨looked ++ more, by rwa [← List.append_assoc]⟩

theorem Trail.run (hd : Drains handles join) (h : Trail course handles join since)
    (happenings : List Happening) :
    ∃ more, Trail course handles (join.run happenings) (since ++ more) := by
  induction happenings generalizing join since with
  | nil => exact ⟨[], by rwa [List.append_nil]⟩
  | cons happening happenings ih =>
    obtain ⟨first, hfirst⟩ := h.step hd happening
    obtain ⟨rest, hrest⟩ := ih (hd.step happening) hfirst
    exact ⟨first ++ rest, by rwa [← List.append_assoc]⟩

/-! ## §4 Nothing Is Set Up While the Daemon Waits -/

/-- The course of a wait goes on by idle deeds, which keep the flags. -/
abbrev LeadsIdle (before after : Join) : Prop :=
  Course.Leads (Deed.isIdle ·) before.course after.course

theorem leadsIdle_poll (join : Join) : LeadsIdle join join.poll := by
  unfold Join.poll
  split
  · exact Course.Leads.refl _
  · exact Course.Leads.act _ (by rfl) (Metrics.Registry.KeepsFlags.refl _)

theorem leadsIdle_stopOnce (join : Join) : LeadsIdle join join.stopOnce := by
  unfold Join.stopOnce
  split
  · exact Course.Leads.refl _
  · exact Course.stopAll_leads join.course join.handles

theorem leadsIdle_shutDown (join : Join) (signal? : Option Log.Signal) :
    LeadsIdle join (join.shutDown signal?) := by
  unfold Join.shutDown
  split
  · exact Course.Leads.refl _
  · have hheard : Course.Leads (Deed.isIdle ·) join.course (hear join.course signal?) := by
      cases signal? with
      | none => exact Course.Leads.refl _
      | some signal => exact Course.Leads.report _ _ (by rfl)
    have hseen : Course.Leads (Deed.isIdle ·) (hear join.course signal?)
        ((hear join.course signal?).act .shutdownSeen (hear join.course signal?).machine) :=
      Course.Leads.act _ (by rfl) (Metrics.Registry.KeepsFlags.refl _)
    exact (hheard.trans hseen).trans
      ((Course.Leads.report _ .shutdownRequested (by rfl)).trans (leadsIdle_stopOnce _))

theorem leadsIdle_conclude (join : Join) (role : Role) (result : Except LoopFault Unit) :
    LeadsIdle join (join.conclude role result) := by
  unfold Join.conclude
  split
  · exact Course.Leads.report _ _ (by rfl)
  · exact (Course.Leads.report join.course _ (by rfl)).trans (leadsIdle_stopOnce _)

theorem leadsIdle_complete (join : Join) (place : Nat) : LeadsIdle join (join.complete place) := by
  unfold Join.complete
  split
  · split
    · exact Course.Leads.refl _
    · rename_i handle _
      split
      · exact Course.Leads.refl _
      · rename_i handle' machine result hwait
        have hmetrics := (handle.wait_frame join.course.machine).2
        rw [hwait] at hmetrics
        have hseen : Course.Leads (Deed.isIdle ·) join.course
            (join.course.act (.joined handle'.role) machine) := by
          refine Course.Leads.act _ (by rfl) ?_
          rw [hmetrics]
          exact Metrics.Registry.KeepsFlags.refl _
        exact hseen.trans (leadsIdle_conclude (join.see place handle' machine result) _ _)
  · exact Course.Leads.refl _

theorem leadsIdle_step (join : Join) (happening : Happening) :
    LeadsIdle join (join.step happening) := by
  cases happening with
  | shutdown signal? => exact (leadsIdle_poll join).trans (leadsIdle_shutDown join.poll signal?)
  | ended place => exact (leadsIdle_poll join).trans (leadsIdle_complete join.poll place)

theorem leadsIdle_run (join : Join) (happenings : List Happening) :
    LeadsIdle join (join.run happenings) := by
  induction happenings generalizing join with
  | nil => exact Course.Leads.refl _
  | cons happening happenings ih => exact (leadsIdle_step join happening).trans (ih _)

/-! ## §5 The Result -/

/-- There is a result once every end was seen. -/
theorem isSome_result? (join : Join) : join.result?.isSome ↔ join.isDone := by
  unfold result?
  split <;> simp_all

/-- The result is good when every end was seen and no failure was kept. -/
theorem result?_eq_ok_iff (join : Join) :
    join.result? = some (.ok ()) ↔ join.isDone ∧ join.firstError? = none := by
  unfold result?
  cases join.firstError? <;> simp

/-- The result is bad when every end was seen and a failure was kept, and it is this failure. -/
theorem result?_eq_error_iff (join : Join) (error : BootstrapError) :
    join.result? = some (.error error) ↔ join.isDone ∧ join.firstError? = some error := by
  unfold result?
  cases join.firstError? <;> simp

/-- No failure was kept just when every end that was seen was good. -/
theorem Trail.firstError?_eq_none_iff (h : Trail course handles join since) :
    join.firstError? = none ↔ ∀ ending ∈ join.endings, ending.result = .ok () := by
  rw [h.first, List.findSome?_eq_none_iff]
  exact forall₂_congr fun _ _ => Ending.error?_eq_none_iff

/-- Once every end was seen, all of them are good just when all services end well. -/
theorem Drains.forall_endings_iff (h : Drains handles join) (hdone : join.isDone) :
    (∀ ending ∈ join.endings, ending.result = .ok ()) ↔
      ∀ handle ∈ handles, handle.verdict = .ok () := by
  constructor
  · intro hgood handle hhandle
    obtain ⟨place, hlt, rfl⟩ := List.getElem_of_mem hhandle
    obtain ⟨ending, hending, rfl⟩ := List.mem_map.1 (h.isDone_iff.1 hdone place hlt)
    obtain ⟨handle, hget, -, hresult⟩ := h.endings ending hending
    rw [List.getElem?_eq_getElem hlt] at hget
    rw [Option.some.inj hget, ← hresult]
    exact hgood ending hending
  · intro hgood ending hending
    obtain ⟨handle, hget, -, hresult⟩ := h.endings ending hending
    rw [hresult]
    exact hgood handle (List.mem_of_getElem? hget)

end Join

end RoleDaemon

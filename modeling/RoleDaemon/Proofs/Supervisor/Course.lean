import RoleDaemon.Proofs.Service.Handle
import RoleDaemon.Supervisor.Course

/-!
# How a Course Goes On

What the operations of a course add to its deeds and do to its state.  Operations that only add deeds
of some kind, and keep the flags meanwhile, are described by one relation.

Main statements:
- `Course.Leads`: a course goes on by deeds of some kind, which keep the flags
- `Course.stopAll_eq`: what stopping services does
- `Course.waitAll_spec`: what waiting for services does
-/

namespace RoleDaemon.Course

open Metrics

/-! ## §1 Deeds and State after an Operation -/

@[simp] theorem deeds_act (course : Course) (deed : Deed) (machine : Machine) :
    (course.act deed machine).deeds = course.deeds ++ [deed] := by
  simp [deeds, act]

@[simp] theorem machine_act (course : Course) (deed : Deed) (machine : Machine) :
    (course.act deed machine).machine = machine := rfl

@[simp] theorem deeds_report (course : Course) (event : Log.Event) :
    (course.report event).deeds = course.deeds ++ [.reported] :=
  deeds_act course _ _

@[simp] theorem deeds_enter (course : Course) (next : Lifecycle) :
    (course.enter next).deeds = course.deeds ++ [.entered next] :=
  deeds_act course _ _

@[simp] theorem deeds_within (course : Course) (environment : Environment) :
    (course.within environment).deeds = course.deeds := rfl

@[simp] theorem deeds_keep (course : Course) (handles : List Handle) :
    (course.keep handles).deeds = course.deeds := rfl

@[simp] theorem deeds_leave (course : Course) (environment : Environment) :
    (course.leave environment).deeds = course.deeds ++ [.environmentShutDown] :=
  deeds_act course _ _

/-- Stopping services asks each of them once, in order, and changes nothing else. -/
theorem stopAll_eq (course : Course) (handles : List Handle) :
    course.stopAll handles =
      ({ course with
          moments := course.moments ++
            handles.map fun handle => ⟨.stopped handle.role, course.machine⟩ },
        handles.map Handle.stop) := by
  induction handles generalizing course with
  | nil => simp [stopAll]
  | cons handle handles ih =>
    simp only [stopAll, ih, act, List.map_cons, List.append_assoc, List.cons_append, List.nil_append]

@[simp] theorem deeds_stopAll (course : Course) (handles : List Handle) :
    (course.stopAll handles).1.deeds =
      course.deeds ++ handles.map fun handle => .stopped handle.role := by
  simp [stopAll_eq, deeds]

/-! ## §2 Going on by Deeds of Some Kind -/

/-- The course goes on by deeds of the given kind, and every flag reads all the while as before. -/
def Leads (kind : Deed → Prop) (before after : Course) : Prop :=
  ∃ moments, after.moments = before.moments ++ moments ∧
    (∀ moment ∈ moments, kind moment.deed ∧
      before.machine.metrics.KeepsFlags moment.machine.metrics) ∧
    before.machine.metrics.KeepsFlags after.machine.metrics

variable {kind : Deed → Prop}

theorem Leads.refl (course : Course) : Leads kind course course :=
  ⟨[], by simp, by simp, Registry.KeepsFlags.refl _⟩

theorem Leads.trans {a b c : Course} (hab : Leads kind a b) (hbc : Leads kind b c) :
    Leads kind a c := by
  obtain ⟨first, hfirst, hquiet, hkept⟩ := hab
  obtain ⟨second, hsecond, hquiet', hkept'⟩ := hbc
  refine ⟨first ++ second, by rw [hsecond, hfirst, List.append_assoc], ?_, hkept.trans hkept'⟩
  intro moment hmoment
  rcases List.mem_append.1 hmoment with h | h
  · exact hquiet moment h
  · exact ⟨(hquiet' moment h).1, hkept.trans (hquiet' moment h).2⟩

/-- A kind of deeds may be made wider. -/
theorem Leads.mono {kind' : Deed → Prop} {before after : Course} (h : Leads kind before after)
    (hkind : ∀ deed, kind deed → kind' deed) : Leads kind' before after := by
  obtain ⟨moments, hmoments, hquiet, hkept⟩ := h
  exact ⟨moments, hmoments, fun moment hm => ⟨hkind _ (hquiet moment hm).1, (hquiet moment hm).2⟩, hkept⟩

/-- One more deed. -/
theorem Leads.act (course : Course) {deed : Deed} (hdeed : kind deed) {machine : Machine}
    (hkept : course.machine.metrics.KeepsFlags machine.metrics) :
    Leads kind course (course.act deed machine) :=
  ⟨[⟨deed, machine⟩], rfl, by simpa using ⟨hdeed, hkept⟩, hkept⟩

theorem Leads.report (course : Course) (event : Log.Event) (h : kind .reported) :
    Leads kind course (course.report event) :=
  Leads.act course h (Registry.KeepsFlags.refl _)

/-- What is kept beside the moments does not matter. -/
theorem Leads.congr {before after after' : Course} (h : Leads kind before after)
    (hmoments : after'.moments = after.moments) (hmachine : after'.machine = after.machine) :
    Leads kind before after' := by
  obtain ⟨moments, hm, hquiet, hkept⟩ := h
  exact ⟨moments, hmoments.trans hm, hquiet, hmachine ▸ hkept⟩

/-- The course goes on by deeds of the given kind. -/
def Extends (kind : Deed → Prop) (before after : Course) : Prop :=
  ∃ since, after.deeds = before.deeds ++ since ∧ ∀ deed ∈ since, kind deed

theorem Leads.extends {before after : Course} (h : Leads kind before after) :
    Extends kind before after := by
  obtain ⟨moments, hmoments, hquiet, -⟩ := h
  refine ⟨moments.map (·.deed), by simp [deeds, hmoments], fun deed hdeed => ?_⟩
  obtain ⟨moment, hmoment, rfl⟩ := List.mem_map.1 hdeed
  exact (hquiet moment hmoment).1

theorem Extends.trans {a b c : Course} (hab : Extends kind a b) (hbc : Extends kind b c) :
    Extends kind a c := by
  obtain ⟨first, hfirst, hkind⟩ := hab
  obtain ⟨second, hsecond, hkind'⟩ := hbc
  refine ⟨first ++ second, by rw [hsecond, hfirst, List.append_assoc], fun deed hdeed => ?_⟩
  rcases List.mem_append.1 hdeed with h | h
  · exact hkind deed h
  · exact hkind' deed h

/-- Deeds of another kind were done before. -/
theorem Extends.mem_of_mem {before after : Course} (h : Extends kind before after) {deed : Deed}
    (hkind : ¬ kind deed) (hmem : deed ∈ after.deeds) : deed ∈ before.deeds := by
  obtain ⟨since, hdeeds, hsince⟩ := h
  rw [hdeeds] at hmem
  rcases List.mem_append.1 hmem with hbefore | hafter
  · exact hbefore
  · exact absurd (hsince deed hafter) hkind

end RoleDaemon.Course

namespace RoleDaemon

/-! ## §3 Stopping and Waiting -/

/-- The deeds of looking on and of tearing down: none of them sets anything up or publishes
    anything. -/
def Deed.isIdle : Deed → Bool
  | .reported | .shutdownPolled | .shutdownSeen | .stopped _ | .joined _ | .environmentShutDown => true
  | _ => false

/-- The fault that breaks off whoever waits for the service, where there is one. -/
def Handle.panic? (handle : Handle) : Option LoopFault :=
  match handle.verdict with
  | .error (.panicked task message) => some (.panicked task message)
  | _ => none

namespace Course

theorem stopAll_leads (course : Course) (handles : List Handle) :
    Leads (Deed.isIdle ·) course (course.stopAll handles).1 := by
  rw [stopAll_eq]
  refine ⟨_, rfl, ?_, Metrics.Registry.KeepsFlags.refl _⟩
  intro moment hmoment
  obtain ⟨handle, -, rfl⟩ := List.mem_map.1 hmoment
  exact ⟨rfl, Metrics.Registry.KeepsFlags.refl _⟩

/-- The wait for the first service, and what follows from it. -/
theorem waitAll_cons (course : Course) (handle : Handle) (handles : List Handle)
    (hstop : handle.stopRequested) :
    course.waitAll (handle :: handles) =
      let waited := handle.wait course.machine
      let joined := course.act (.joined handle.role) waited.2.1
      match handle.panic? with
      | some fault => (joined, waited.1 :: handles, some fault)
      | none =>
        let (after, rest, fault?) := joined.waitAll handles
        (after, waited.1 :: rest, fault?) := by
  obtain ⟨handle', machine', hwait⟩ := handle.wait_of_stopRequested hstop course.machine
  have hrole : handle'.role = handle.role := by
    have h := (handle.wait_frame course.machine).1
    rwa [hwait] at h
  simp only [waitAll, hwait, Handle.panic?]
  cases handle.verdict with
  | ok _ => simp only [hrole]
  | error fault => cases fault <;> simp only [hrole]

/-- Waiting for services that were asked to end waits for each of them in turn, until one breaks
    off. -/
theorem waitAll_spec (course : Course) (handles : List Handle)
    (hstop : ∀ handle ∈ handles, handle.stopRequested) :
    Leads (Deed.isIdle ·) course (course.waitAll handles).1 ∧
      (course.waitAll handles).2.2 = handles.findSome? Handle.panic? := by
  induction handles generalizing course with
  | nil => exact ⟨Leads.refl course, rfl⟩
  | cons handle handles ih =>
    rw [waitAll_cons course handle handles (hstop handle (List.mem_cons_self ..))]
    have hmetrics := (handle.wait_frame course.machine).2
    have hjoined : Leads (Deed.isIdle ·) course
        (course.act (.joined handle.role) (handle.wait course.machine).2.1) := by
      refine Leads.act course ?_ ?_
      · rfl
      · rw [hmetrics]
        exact Metrics.Registry.KeepsFlags.refl _
    cases hpanic : handle.panic? with
    | some fault =>
      -- the waiting breaks off here, and the services behind this one are not waited for
      exact ⟨hjoined, by simp [hpanic]⟩
    | none =>
      obtain ⟨hrest, hfault⟩ := ih (course.act (.joined handle.role) (handle.wait course.machine).2.1)
        fun handle h => hstop handle (List.mem_cons_of_mem _ h)
      exact ⟨hjoined.trans hrest, by simp [hpanic, ← hfault]⟩

end Course

end RoleDaemon

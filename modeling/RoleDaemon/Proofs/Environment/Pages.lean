import RoleDaemon.Proofs.Environment.Diagnostics
import RoleDaemon.Proofs.Metrics.Refusal
import RoleDaemon.Proofs.Rpc.Trace
import RoleDaemon.Proofs.Service.Accounts

/-!
# What Reading the Pages Leaves

Who reads the diagnostic pages does not change the daemon.  Only two pages touch its state, and both
touch the trace of the calls only.  One resets it.  The other one is the summary of the calls, which
files the values that it reads.  Calls and latency have a value for every pair of the summary already,
since a call is recorded in both; failed calls need not have one, and then the next export tells that
they number zero.

## Architecture

- `Diagnostics.respond_state`: the state after a request, of which there are three
- `Rpc.Trace.IsFiled`: what a summary reads is filed, apart from failed calls
- `Metrics.Registry.exportedSamples`: the samples of an export, each with the family that it stands in
- `Metrics.Registry.exportedSamples_touched`, `Metrics.Registry.exportedSamples_reset`: how the two
  pages change them
- `ProcessEvent`: what can happen in a daemon, `ProcessEvent.metrics_run`: what it does to the metrics
- `Metrics.Registry.IsKept`, `Metrics.Registry.HasTrace`: the invariants of the metrics

Main statements:
- `Diagnostics.respond_leaves`: what a request for a page leaves, at any time
-/

namespace RoleDaemon

open Metrics Exposition Http Rpc
open scoped List

/-! ## §1 Requests -/

/-- What a request asks for is served at its path, and the route takes its method. -/
theorem Http.route_of_dispatch {α : Type} {routes : List (Route α)} {request : Request} {page : α}
    {headOnly : Bool} (h : dispatch routes request = .page page headOnly) :
    ∃ route ∈ routes, route.path = request.path ∧ route.page = page := by
  unfold dispatch at h
  cases hroute : route? routes request.path with
  | none =>
    rw [hroute] at h
    cases h
  | some route =>
    have hpath : route.path = request.path := by simpa using List.find?_some hroute
    refine ⟨route, List.mem_of_find?_eq_some hroute, hpath, ?_⟩
    simp only [hroute] at h
    cases hverb : route.verb with
    | get =>
      simp only [hverb] at h
      split at h
      · cases h
        rfl
      · split at h
        · cases h
          rfl
        · cases h
    | post =>
      simp only [hverb] at h
      split at h
      · cases h
        rfl
      · cases h

namespace Diagnostics

/-- The request reads the summary of the calls, or only the headers of this page. -/
def readsCalls (request : Request) : Bool :=
  (request.method = "GET" || request.method = "HEAD") && request.path = "/rpcz"

/-- The request resets the trace of the calls. -/
def resetsCalls (request : Request) : Bool :=
  request.method = "POST" && request.path = "/rpcz/reset"

/-- A page of a path that is not one of the two about the calls leaves everything as it is. -/
theorem answer_of_path (diagnostics : Diagnostics) (occasion : Occasion) (machine : Machine)
    {request : Request} {page : Page} {headOnly : Bool}
    (hdispatch : dispatch routes request = .page page headOnly) (hcalls : request.path ≠ "/rpcz")
    (hreset : request.path ≠ "/rpcz/reset") :
    (diagnostics.answer page occasion machine).2 = machine := by
  obtain ⟨route, hroute, hpath, rfl⟩ := route_of_dispatch hdispatch
  simp only [routes, List.mem_cons, List.not_mem_nil, or_false] at hroute
  -- six of the eight pages hand the machine through
  obtain rfl | rfl | rfl | rfl | rfl | rfl | rfl | rfl := hroute
  case inr.inr.inr.inr.inr.inr.inl => exact absurd hpath.symm hcalls
  case inr.inr.inr.inr.inr.inr.inr => exact absurd hpath.symm hreset
  all_goals rfl

/-- **The state after a request**: reset, or with the summary of the calls read, or as it was. -/
theorem respond_state (diagnostics : Diagnostics) (request : Request) (occasion : Occasion)
    (machine : Machine) :
    (diagnostics.respond request occasion machine).2 =
      if resetsCalls request then
        { machine with metrics := machine.metrics.modifyTrace Trace.reset }
      else if readsCalls request then
        { machine with metrics := machine.metrics.modifyTrace Trace.touched }
      else machine := by
  unfold respond
  by_cases hoptions : request.method = "OPTIONS"
  · simp [resetsCalls, readsCalls, hoptions]
  rw [if_neg hoptions]
  by_cases hcalls : request.path = "/rpcz"
  · have hdispatch : dispatch routes request =
        if request.method = "GET" then .page .calls false
        else if request.method = "HEAD" then .page .calls true else .wrongMethod .get := by
      rw [dispatch, hcalls]
      rfl
    have hreset : resetsCalls request = false := by simp [resetsCalls, hcalls]
    rw [hdispatch, hreset]
    by_cases hget : request.method = "GET"
    · simp [readsCalls, answer, hget, hcalls]
    · by_cases hhead : request.method = "HEAD"
      · simp [readsCalls, answer, hhead, hcalls]
      · simp [readsCalls, hget, hhead]
  by_cases hreset : request.path = "/rpcz/reset"
  · have hdispatch : dispatch routes request =
        if request.method = "POST" then .page .resetCalls false else .wrongMethod .post := by
      rw [dispatch, hreset]
      rfl
    have hread : readsCalls request = false := by simp [readsCalls, hreset]
    rw [hdispatch, hread]
    by_cases hpost : request.method = "POST"
    · simp [resetsCalls, answer, hpost, hreset]
    · simp [resetsCalls, hpost]
  · -- any other page only shows the state, and a refusal does not even that
    have hneither : resetsCalls request = false ∧ readsCalls request = false := by
      simp [resetsCalls, readsCalls, hcalls, hreset]
    simp only [hneither, Bool.false_eq_true, if_false]
    cases hdispatch : dispatch routes request with
    | unknownPath => rfl
    | wrongMethod allowed => rfl
    | page page headOnly =>
      exact diagnostics.answer_of_path occasion machine hdispatch hcalls hreset

end Diagnostics

/-! ## §2 The Trace -/

namespace Rpc.Trace

/-- Every pair that was called has a value among the calls and among the latency. -/
structure IsFiled (trace : Trace) : Prop where
  calls : ∀ labels ∈ trace.seen, (trace.calls.get? labels).isSome
  latency : ∀ labels ∈ trace.seen, (trace.latency.get? labels).isSome

/-- Reading the summary does not change it. -/
theorem summary_touched (trace : Trace) : trace.touched.summary = trace.summary := by
  -- a line tells the values of its pair, which reading does not change, filed or not
  apply List.map_congr_left
  intro labels _
  have hcalls := Series.value_foldl_touch trace.seen trace.calls 0 labels
  have herrors := Series.value_foldl_touch trace.seen trace.errors 0 labels
  have hlatency := Series.value_foldl_touch trace.seen trace.latency .empty labels
  simp only [Series.value] at hcalls herrors hlatency
  simp only [touched, hcalls, herrors, hlatency]

namespace IsFiled

variable {trace : Trace}

theorem empty : IsFiled .empty := ⟨by simp [Trace.empty], by simp [Trace.empty]⟩

/-- A call is filed among the calls and the latency when its pair is remembered. -/
theorem record (h : IsFiled trace) (labels : CallLabels) (elapsed : Duration) (ok : Bool) :
    IsFiled (trace.record labels elapsed ok) where
  calls other hother := by
    rw [Trace.record, Series.isSome_get?_update]
    exact (mem_insertSeen.1 hother).imp (congrArg CallLabels.key) (h.calls other)
  latency other hother := by
    rw [Trace.record, Series.isSome_get?_update]
    exact (mem_insertSeen.1 hother).imp (congrArg CallLabels.key) (h.latency other)

/-- Reading the summary adds nothing but zeros to the failed calls, for pairs that it lists. -/
theorem touched_eq (h : IsFiled trace) :
    ∃ added : List CallLabels,
      (∀ labels ∈ added, labels ∈ trace.seen ∧ trace.errors.get? labels = none) ∧
      added.Pairwise (fun a b => a.key ≠ b.key) ∧
      trace.touched = { trace with
        errors := ⟨trace.errors.cells ++ added.map fun labels => (labels, 0)⟩ } := by
  obtain ⟨added, hadded, hdistinct, herrors⟩ := Series.cells_foldl_touch trace.seen trace.errors 0
  refine ⟨added, hadded, hdistinct, ?_⟩
  rw [touched, Series.foldl_touch_of_isSome 0 h.calls,
    Series.foldl_touch_of_isSome .empty h.latency, herrors]

/-- Whatever is done with a trace, what a summary reads stays filed. -/
theorem run (h : IsFiled trace) (action : Action) : IsFiled (action.run trace) := by
  cases action with
  | record call => exact h.record call.labels call.elapsed call.ok
  | summary =>
    obtain ⟨added, -, -, htouched⟩ := h.touched_eq
    rw [Action.run, htouched]
    exact ⟨h.calls, h.latency⟩
  | reset => exact empty

end IsFiled

end Rpc.Trace

/-! ## §3 The Samples of an Export -/

namespace Metrics

/-- The line tells a number. -/
def Exposition.Line.isSample : Line → Bool
  | .sample .. => true
  | _ => false

/-- The samples of a family, each with the exported name of the family. -/
def Exposition.attributed (family : Exposition) : List (String × Line) :=
  (samplesOf family.name family.samples).map fun line => (family.name, line)

/-- The numbers among the lines of a family are its samples. -/
theorem Exposition.filter_isSample (family : Exposition) :
    family.lines.filter Line.isSample = family.attributed.map (·.2) := by
  have hall : ∀ line ∈ samplesOf family.name family.samples, line.isSample := by
    intro line hline
    cases hsamples : family.samples with
    | gauge samples | counter samples =>
      rw [hsamples] at hline
      obtain ⟨sample, -, rfl⟩ := List.mem_map.1 hline
      rfl
    | histogram samples =>
      rw [hsamples] at hline
      obtain ⟨sample, -, hline⟩ := List.mem_flatMap.1 hline
      rcases List.mem_append.1 hline with hline | hline
      · obtain ⟨bucket, -, rfl⟩ := List.mem_map.1 hline
        rfl
      · simp only [List.mem_cons, List.not_mem_nil, or_false] at hline
        obtain rfl | rfl | rfl := hline <;> rfl
  have hown : family.lines.filter Line.isSample = samplesOf family.name family.samples := by
    rw [lines, List.filter_cons_of_neg (by simp [Line.isSample]),
      List.filter_cons_of_neg (by simp [Line.isSample]), List.filter_eq_self.2 hall]
  rw [hown, attributed, List.map_map]
  exact (List.map_id _).symm

theorem Exposition.attributed_of_size {family : Exposition} (hsize : family.samples.size = 0) :
    family.attributed = [] := by
  cases hsamples : family.samples <;>
    simp_all [Samples.size, Exposition.attributed, samplesOf]

namespace Registry

variable {registry : Registry}

/-- The samples of an export, each with the exported name of its family. -/
def exportedSamples (registry : Registry) : List (String × Line) :=
  registry.gather.flatMap Exposition.attributed

/-- The samples are the numbers that are read from the text of the export. -/
theorem read_samples (h : registry.Sound) :
    (Exposition.read registry.encode).map (·.filter Line.isSample) =
      some (registry.exportedSamples.map (·.2)) := by
  rw [read_encode h, Option.map_some, lines, exportedSamples, List.filter_flatMap, List.map_flatMap]
  exact congrArg some (List.flatMap_congr fun family _ => family.filter_isSample)

/-- The samples are those of the metrics, in another order. -/
theorem exportedSamples_perm (registry : Registry) :
    registry.exportedSamples.Perm
      (registry.families.flatMap fun family => (registry.exposed family).attributed) := by
  have hnone : ∀ family ∈ registry.families.map registry.exposed,
      ¬ (family.samples.size != 0) → family.attributed = [] := by
    intro family _ hsize
    exact Exposition.attributed_of_size (by simpa using hsize)
  have hperm := (gather_perm registry).flatMap_right Exposition.attributed
  rwa [← flatMap_eq_flatMap_filter hnone, List.flatMap_map] at hperm

/-- A metric that is no flag, counter or property is a series of the trace. -/
theorem mem_traceFamilies (h : registry.Sound) {family : Family}
    (hfamily : family ∈ registry.families) (hkind : family.content.kind? = none) : family ∈ traceFamilies := by
  have hwell := h.wellNamed family hfamily
  simpa only [Family.isWellNamed, hkind, decide_eq_true_eq] using hwell

/-- The series of the trace are told apart by their names. -/
theorem eq_of_identity : ∀ a ∈ traceFamilies, ∀ b ∈ traceFamilies, a.identity = b.identity →
    a = b := by
  decide

theorem kind?_of_mem_traceFamilies : ∀ family ∈ traceFamilies, family.content.kind? = none := by
  decide

/-- The series of the trace are told apart by what they measure. -/
theorem eq_rpcErrors : ∀ family ∈ traceFamilies, family.content = .rpcErrors →
    family = .rpcErrors := by
  decide

/-- Flags, counters and properties do not read the trace. -/
theorem exposed_of_kind (trace : Trace) {family : Family} (hkind : family.content.kind?.isSome) :
    Registry.exposed ⟨registry.families, trace⟩ family = registry.exposed family := by
  cases hcontent : family.content with
  | rpcCalls | rpcErrors | rpcLatency =>
    rw [hcontent] at hkind
    cases hkind
  | flag => simp only [exposed, hcontent, Content.samples]
  | counter => simp only [exposed, hcontent, Content.samples]
  | property value? => cases value? <;> simp only [exposed, hcontent, Content.samples]

/-- The export tells the same of every metric that does not number the failed calls. -/
theorem exposed_of_errors {trace : Trace} (errors : Series UInt64) {family : Family}
    (hother : family.content ≠ .rpcErrors) :
    Registry.exposed ⟨registry.families, { trace with errors }⟩ family =
      Registry.exposed ⟨registry.families, trace⟩ family := by
  cases hcontent : family.content with
  | rpcErrors => exact absurd hcontent hother
  | property value? => cases value? <;> simp only [exposed, hcontent, Content.samples]
  | _ => simp only [exposed, hcontent, Content.samples]

/-- The failed calls of a pair, exported as zero. -/
def noErrors (labels : CallLabels) : String × Line :=
  (Family.rpcErrors.exportName, .sample Family.rpcErrors.exportName labels.toLabels "0")

/-- The failed calls in the order in which they were filed. -/
theorem attributed_rpcErrors (registry : Registry) :
    (registry.exposed .rpcErrors).attributed.Perm (registry.trace.errors.cells.map fun cell =>
      (Family.rpcErrors.exportName,
        countOf Family.rpcErrors.exportName cell.1.toLabels cell.2)) := by
  -- the samples are sorted, and each one is written on a line of its own
  have hlines : (registry.exposed .rpcErrors).attributed =
      (registry.trace.errors.cells.mergeSort fun a b => a.1.sampleOrder b.1).map fun cell =>
        (Family.rpcErrors.exportName,
          countOf Family.rpcErrors.exportName cell.1.toLabels cell.2) := by
    simp only [Exposition.attributed, exposed, Family.rpcErrors, Content.samples, samplesOf,
      Series.samples, List.map_map, Function.comp_def]
  rw [hlines]
  exact (List.mergeSort_perm _ _).map _

/-- **Reading the summary of the calls** adds samples of failed calls that number zero, for pairs that
    the summary lists and for which there was none. -/
theorem exportedSamples_touched (h : registry.Sound) (hregistered : .rpcErrors ∈ registry.families)
    (hfiled : registry.trace.IsFiled) :
    ∃ added : List CallLabels,
      (∀ labels ∈ added, labels ∈ registry.trace.seen ∧ registry.trace.errors.get? labels = none) ∧
      added.Pairwise (fun a b => a.key ≠ b.key) ∧
      (registry.modifyTrace Trace.touched).exportedSamples.Perm
        (registry.exportedSamples ++ added.map noErrors) := by
  obtain ⟨added, hadded, hdistinct, htouched⟩ := hfiled.touched_eq
  refine ⟨added, hadded, hdistinct, ?_⟩
  let after := registry.modifyTrace Trace.touched
  let others := registry.families.erase .rpcErrors
  -- the order of the metrics does not matter, so the failed calls may be told first
  have hfamilies : registry.families.Perm (.rpcErrors :: others) := List.perm_cons_erase hregistered
  have hafter : after = ⟨registry.families, { registry.trace with
      errors := ⟨registry.trace.errors.cells ++ added.map fun labels => (labels, 0)⟩ }⟩ :=
    congrArg (Registry.mk registry.families) htouched
  -- the failed calls are registered once, so every other metric is exported as before
  have hothers : others.flatMap (fun family => (after.exposed family).attributed) =
      others.flatMap fun family => (registry.exposed family).attributed := by
    apply List.flatMap_congr
    intro family hfamily
    obtain ⟨hne, hmem⟩ := (h.distinct.of_map.mem_erase_iff).1 hfamily
    have hcontent : family.content ≠ .rpcErrors := by
      intro hcontent
      have hseries := mem_traceFamilies h hmem (by rw [hcontent]; rfl)
      exact hne (eq_rpcErrors family hseries hcontent)
    rw [hafter, exposed_of_errors _ hcontent]
  have herrors : (after.exposed .rpcErrors).attributed.Perm
      ((registry.exposed .rpcErrors).attributed ++ added.map noErrors) := by
    refine (attributed_rpcErrors after).trans ?_
    have hcells : after.trace.errors.cells =
        registry.trace.errors.cells ++ added.map fun labels => (labels, 0) := by rw [hafter]
    rw [hcells, List.map_append, List.map_map]
    refine (attributed_rpcErrors registry).symm.append ?_
    apply List.Perm.of_eq
    apply List.map_congr_left
    intro labels _
    simp only [Function.comp_apply, countOf_zero, noErrors]
  calc after.exportedSamples
    _ ~ registry.families.flatMap fun family => (after.exposed family).attributed :=
        exportedSamples_perm after
    _ ~ (after.exposed .rpcErrors).attributed ++
          others.flatMap fun family => (after.exposed family).attributed :=
        hfamilies.flatMap_right _
    _ ~ (registry.exposed .rpcErrors).attributed ++ added.map noErrors ++
          others.flatMap fun family => (registry.exposed family).attributed :=
        herrors.append (.of_eq hothers)
    _ ~ (registry.exposed .rpcErrors).attributed ++
          others.flatMap (fun family => (registry.exposed family).attributed) ++
          added.map noErrors := by
        rw [List.append_assoc, List.append_assoc]
        exact List.perm_append_comm.append_left _
    _ ~ registry.exportedSamples ++ added.map noErrors :=
        ((hfamilies.flatMap_right _).symm.trans (exportedSamples_perm registry).symm).append_right _

/-- The exported names of the series of the trace. -/
def traceNames : List String := traceFamilies.map (·.exportName)

/-- **Resetting the trace** removes the samples of its three series from the export, and no others. -/
theorem exportedSamples_reset (h : registry.Sound)
    (hregistered : ∀ family ∈ traceFamilies, family ∈ registry.families) :
    (registry.modifyTrace Trace.reset).exportedSamples.Perm
      (registry.exportedSamples.filter fun sample => sample.1 ∉ traceNames) := by
  let after := registry.modifyTrace Trace.reset
  -- metric by metric: what is left of its samples are those that are not of the trace
  have hkept : ∀ family ∈ registry.families, (after.exposed family).attributed =
      (registry.exposed family).attributed.filter fun sample => sample.1 ∉ traceNames := by
    intro family hfamily
    have hname : ∀ sample ∈ (registry.exposed family).attributed, sample.1 = family.exportName := by
      intro sample hsample
      obtain ⟨line, -, rfl⟩ := List.mem_map.1 hsample
      rfl
    cases hkind : family.content.kind? with
    | none =>
      -- a series of the trace is empty, and all of its samples go
      have hseries := mem_traceFamilies h hfamily hkind
      have hempty : (after.exposed family).attributed = [] :=
        Exposition.attributed_of_size (size_samples_of_quiet rfl hkind)
      rw [hempty, eq_comm, List.filter_eq_nil_iff]
      intro sample hsample
      have hin : sample.1 ∈ traceNames := hname sample hsample ▸ List.mem_map_of_mem hseries
      simpa using hin
    | some kind =>
      have hsame : after.exposed family = registry.exposed family :=
        exposed_of_kind _ (by rw [hkind]; rfl)
      -- its name is free, since the series of the trace are registered under theirs
      rw [hsame, eq_comm, List.filter_eq_self]
      intro sample hsample
      rw [decide_eq_true_eq, hname sample hsample]
      intro hin
      obtain ⟨series, hseries, heq⟩ := List.mem_map.1 hin
      obtain rfl := h.eq_of_exportName (hregistered series hseries) hfamily heq
      rw [kind?_of_mem_traceFamilies series hseries] at hkind
      cases hkind
  calc after.exportedSamples
    _ ~ registry.families.flatMap fun family => (after.exposed family).attributed :=
        exportedSamples_perm after
    _ = (registry.families.flatMap fun family =>
          (registry.exposed family).attributed).filter fun sample => sample.1 ∉ traceNames := by
        rw [List.filter_flatMap]
        exact List.flatMap_congr hkept
    _ ~ registry.exportedSamples.filter fun sample => sample.1 ∉ traceNames :=
        (exportedSamples_perm registry).symm.filter _

end Registry

end Metrics

/-! ## §4 What Happens in the Process of a Daemon -/

/-- What can happen in the process of a daemon. -/
inductive ProcessEvent where
  /-- Something is done with the metrics, or a component is built that registers some. -/
  | operate (operation : Operation)
  /-- A client sends a request to a role. -/
  | call (service : RoleService) (request : Request) (occasion : Occasion)
  /-- A call of any service is traced, or the trace is read or reset. -/
  | trace (action : Trace.Action)
  /-- Somebody asks for a diagnostic page. -/
  | page (diagnostics : Diagnostics) (request : Request) (occasion : Occasion)
  /-- A task starts, and is counted. -/
  | startTask (list : Nat) (category name : String) (now : Timestamp)
  /-- Anything else: listeners open and close, tasks end, and events are reported. -/
  | elsewhere (sockets : Net.Sockets) (taskLists : List TaskRegistry) (log : List Log.Event)

namespace ProcessEvent

/-- The process afterwards. -/
def run (machine : Machine) : ProcessEvent → Machine
  | operate operation => operation.run machine
  | call service request occasion => (service.respond request occasion machine).2
  | trace action => { machine with metrics := machine.metrics.modifyTrace action.run }
  | page diagnostics request occasion => (diagnostics.respond request occasion machine).2
  | startTask list category name now => (machine.startTask list category name now).2
  | elsewhere sockets taskLists log => { machine with sockets, taskLists, log }

def runAll (machine : Machine) (events : List ProcessEvent) : Machine :=
  events.foldl run machine

/-- An event does actions with the metrics, and then others with the trace. -/
theorem metrics_run (machine : Machine) (event : ProcessEvent) :
    ∃ actions traced, (event.run machine).metrics =
      (Book.acts ⟨machine.metrics, []⟩ actions).registry.modifyTrace (Trace.runAll traced) := by
  have hincrement : ∀ name amount,
      (Book.act ⟨machine.metrics, []⟩ (.increment name amount)).registry =
        machine.metrics.increment name amount := fun name amount =>
    Book.registry_act ⟨machine.metrics, []⟩ (.increment name amount) (by simp)
  cases event with
  | operate operation =>
    exact ⟨operation.actions machine, [], (operation.registry_acts machine []).symm⟩
  | call service request occasion =>
    obtain ⟨ok, -, -, hmetrics⟩ | ⟨hsame, -⟩ := service.respond_cases request occasion machine
    · -- a call is counted when it succeeded, and traced in any case
      have hrun : (run machine (.call service request occasion)).metrics =
        RoleService.accounted service.role occasion.elapsed ok machine.metrics := hmetrics
      refine ⟨if ok then [.increment service.role.counter 1] else [],
        [.record ⟨service.role.labels, occasion.elapsed, ok⟩], hrun.trans ?_⟩
      cases ok with
      | false => rfl
      | true => exact congrArg (Registry.modifyTrace · _) (hincrement _ _).symm
    · exact ⟨[], [], congrArg Machine.metrics hsame⟩
  | trace action => exact ⟨[], [action], rfl⟩
  | page diagnostics request occasion =>
    have hstate := diagnostics.respond_state request occasion machine
    split at hstate
    · exact ⟨[], [.reset], congrArg Machine.metrics hstate⟩
    · split at hstate
      · exact ⟨[], [.summary], congrArg Machine.metrics hstate⟩
      · exact ⟨[], [], congrArg Machine.metrics hstate⟩
  | startTask list category name now =>
    exact ⟨[.increment Machine.tasksCreated 1], [], (hincrement _ _).symm⟩
  | elsewhere sockets taskLists log => exact ⟨[], [], rfl⟩

/-- What every action keeps, with the metrics or with the trace, is kept by any events. -/
theorem runAll_keep {P : Registry → Prop}
    (hact : ∀ book action, P book.registry → P (Book.act book action).registry)
    (htrace : ∀ registry (action : Trace.Action), P registry → P (registry.modifyTrace action.run))
    {machine : Machine} (h : P machine.metrics) (events : List ProcessEvent) :
    P (runAll machine events).metrics := by
  -- induction on what is done with the trace, inside of the one on the events
  have htraced : ∀ (traced : List Trace.Action) registry, P registry →
      P (registry.modifyTrace (Trace.runAll traced)) := by
    intro traced
    induction traced with
    | nil => exact fun registry h => h
    | cons action traced ih => exact fun registry h => ih _ (htrace registry action h)
  induction events generalizing machine with
  | nil => exact h
  | cons event events ih =>
    obtain ⟨actions, traced, hmetrics⟩ := metrics_run machine event
    apply ih
    rw [hmetrics]
    exact htraced traced _ (Book.acts_keep (P := fun book => P book.registry) hact h actions)

end ProcessEvent

/-! ## §5 While the Pages Are Served -/

namespace Metrics.Registry

variable {registry : Registry}

/-- The registry is sound, and a summary finds the calls and the latency of its pairs. -/
structure IsKept (registry : Registry) : Prop where
  sound : registry.Sound
  filed : registry.trace.IsFiled

theorem IsKept.runAll {machine : Machine} (h : machine.metrics.IsKept)
    (events : List ProcessEvent) : (ProcessEvent.runAll machine events).metrics.IsKept := by
  refine ProcessEvent.runAll_keep ?_ ?_ h events
  · intro book action h
    exact ⟨Book.sound_act h.sound action, by rw [book.trace_act]; exact h.filed⟩
  · intro registry action h
    -- the metrics themselves do not depend on the trace
    exact ⟨⟨h.sound.distinct, h.sound.wellNamed, h.sound.described⟩, h.filed.run action⟩

/-- The series of the trace are registered. -/
def HasTrace (registry : Registry) : Prop :=
  ∀ family ∈ traceFamilies, family.identity ∈ registry.families.map Family.identity

/-- They are what they were registered as. -/
theorem HasTrace.mem (htrace : registry.HasTrace) (h : registry.Sound) :
    ∀ family ∈ traceFamilies, family ∈ registry.families := by
  intro family hfamily
  obtain ⟨other, hother, hidentity⟩ := List.mem_map.1 (htrace family hfamily)
  have hkind : other.content.kind? = none :=
    (congrArg (·.2.2.2) hidentity).trans (kind?_of_mem_traceFamilies family hfamily)
  rwa [← eq_of_identity other (mem_traceFamilies h hother hkind) family hfamily hidentity]

theorem HasTrace.of_prefix {later : Registry} (h : registry.HasTrace)
    (hkept : registry.families.map Family.identity <+: later.families.map Family.identity) :
    later.HasTrace :=
  fun family hfamily => hkept.subset (h family hfamily)

theorem HasTrace.runAll {machine : Machine} (h : machine.metrics.HasTrace)
    (events : List ProcessEvent) : (ProcessEvent.runAll machine events).metrics.HasTrace :=
  ProcessEvent.runAll_keep (fun book action h => h.of_prefix (book.prefix_identity_act action))
    (fun _ _ h => h) h events

end Metrics.Registry

/-- An environment has registered the series of the trace. -/
theorem Environment.hasTrace_of_init {identity : Identity} {config : Config} {now : Timestamp}
    {before machine : Machine} {environment : Environment}
    (hinit : init identity config now before = (machine, .ok environment)) :
    machine.metrics.HasTrace := by
  obtain ⟨enrolled, henroll, hmetrics⟩ := enroll_of_init hinit
  have henrolled : enrolled.HasTrace := by
    intro family hfamily
    have hmem : ⟨family, none⟩ ∈ enrolments identity config now := by
      refine List.mem_append_right _ (List.mem_map_of_mem ?_)
      simp [sharedFamilies, hfamily]
    exact Registry.identity_mem_of_ok (Operation.isDeclared_environment identity config now) henroll
      hmem (Registry.kind?_of_mem_traceFamilies family hfamily)
  obtain rfl | hincrement := hmetrics
  · exact henrolled
  · -- the task of the pages was counted, which registers nothing
    rw [hincrement]
    exact henrolled.of_prefix
      ((Action.increment Machine.tasksCreated 1).prefix_identity_run enrolled)

/-- A process before and after somebody asked for a page: readiness, all values and live tasks are the
    same, the metrics are as registered and written, and nothing was opened, closed or reported. -/
structure Machine.AgreesBesidesTrace (before after : Machine) : Prop where
  readiness : Readiness.snapshot after.metrics = Readiness.snapshot before.metrics
  values : after.metrics.snapshot = before.metrics.snapshot
  families : after.metrics.families = before.metrics.families
  tasks : after.taskLists = before.taskLists
  sockets : after.sockets = before.sockets
  log : after.log = before.log

namespace Diagnostics

/-- No page changes anything but the trace. -/
theorem respond_agrees (diagnostics : Diagnostics) (request : Request) (occasion : Occasion)
    (machine : Machine) :
    machine.AgreesBesidesTrace (diagnostics.respond request occasion machine).2 := by
  rw [respond_state]
  split
  · exact ⟨rfl, rfl, rfl, rfl, rfl, rfl⟩
  · split
    · exact ⟨rfl, rfl, rfl, rfl, rfl, rfl⟩
    · exact ⟨rfl, rfl, rfl, rfl, rfl, rfl⟩

/-- **Reading the pages leaves the daemon as it is.**  In a process in which anything has happened
    before and after an environment was built, any request for any page leaves readiness, flags,
    counters, properties, live tasks, listeners and the log.  The samples are those that are read from
    the text of the export.

    - A reset empties the summary of the calls, and removes just the samples of the three series of
      the trace from the export.
    - Any other request leaves the summary.  It leaves the whole state, unless it reads the summary,
      and then it leaves all samples, and may add failed calls that number zero, each for a pair that
      the summary lists and that had no failed calls in the export. -/
theorem respond_leaves (taken : List Net.Endpoint) (earlier : List ProcessEvent)
    {identity : Identity} {config : Config} {now : Timestamp} {built : Machine}
    {environment : Environment}
    (hinit : Environment.init identity config now (ProcessEvent.runAll (.fresh taken) earlier) =
      (built, .ok environment))
    (later : List ProcessEvent) (diagnostics : Diagnostics) (request : Request)
    (occasion : Occasion) :
    let before := ProcessEvent.runAll built later
    let after := (diagnostics.respond request occasion before).2
    before.AgreesBesidesTrace after ∧
    (∀ machine ∈ [before, after],
      (Exposition.read machine.metrics.encode).map (·.filter Line.isSample) =
        some (machine.metrics.exportedSamples.map (·.2))) ∧
    (resetsCalls request →
      after.metrics.trace.summary = [] ∧
      after.metrics.exportedSamples.Perm (before.metrics.exportedSamples.filter fun sample =>
        sample.1 ∉ Registry.traceNames)) ∧
    (¬ resetsCalls request →
      after.metrics.trace.summary = before.metrics.trace.summary ∧
      (¬ readsCalls request → after = before) ∧
      ∃ added : List CallLabels,
        (∀ labels ∈ added, labels ∈ before.metrics.trace.summary.map (·.labels) ∧
          before.metrics.trace.errors.get? labels = none) ∧
        added.Pairwise (fun a b => a.key ≠ b.key) ∧
        after.metrics.exportedSamples.Perm
          (before.metrics.exportedSamples ++ added.map Registry.noErrors)) := by
  intro before after
  have hempty : (Machine.fresh taken).metrics.IsKept := ⟨.empty, .empty⟩
  -- building an environment is one of the operations, so the invariant lasts to the request
  have hbuilt : built.metrics.IsKept := by
    have hoperated := hempty.runAll (earlier ++ [.operate (.environment identity config now)])
    rw [ProcessEvent.runAll, List.foldl_append] at hoperated
    have hrun : (Environment.init identity config now
        (ProcessEvent.runAll (.fresh taken) earlier)).1 = built := by rw [hinit]
    rwa [← hrun]
  have hkept : before.metrics.IsKept := hbuilt.runAll later
  have hregistered : ∀ family ∈ Registry.traceFamilies, family ∈ before.metrics.families :=
    ((Environment.hasTrace_of_init hinit).runAll later).mem hkept.sound
  have hagrees : before.AgreesBesidesTrace after :=
    diagnostics.respond_agrees request occasion before
  have hstate := diagnostics.respond_state request occasion before
  refine ⟨hagrees, ?_, fun hreset => ?_, fun hreset => ?_⟩
  · have hafter : after.metrics.IsKept := hkept.runAll [.page diagnostics request occasion]
    intro machine hmachine
    simp only [List.mem_cons, List.not_mem_nil, or_false] at hmachine
    obtain rfl | rfl := hmachine
    · exact Registry.read_samples hkept.sound
    · exact Registry.read_samples hafter.sound
  · have hafter : after = _ := hstate.trans (if_pos hreset)
    rw [hafter]
    exact ⟨rfl, Registry.exportedSamples_reset hkept.sound hregistered⟩
  · rw [if_neg hreset] at hstate
    by_cases hread : readsCalls request
    · have hafter : after = _ := hstate.trans (if_pos hread)
      obtain ⟨added, hadded, hdistinct, hsamples⟩ := Registry.exportedSamples_touched hkept.sound
        (hregistered .rpcErrors (by simp [Registry.traceFamilies])) hkept.filed
      have hlisted : before.metrics.trace.summary.map (·.labels) = before.metrics.trace.seen := by
        simp [Trace.summary, Function.comp_def]
      rw [hafter, hlisted]
      exact ⟨Trace.summary_touched _, fun h => absurd hread h, added, hadded, hdistinct, hsamples⟩
    · have hafter : after = before := hstate.trans (if_neg hread)
      rw [hafter]
      exact ⟨rfl, fun _ => rfl, [], by simp, List.Pairwise.nil, by simp⟩

/-- A request was planned.  Reading the summary, with some query, leaves the request in it, reading
    the list of tasks leaves everything, and a reset empties the summary. -/
theorem respond_leaves_planned :
    let environment : Environment := ⟨⟨"recordserviced@node-1:12050"⟩, 0,
      some ⟨⟨.v4 .unspecified, 11050⟩, ⟨0, 1⟩⟩⟩
    let before := ProcessEvent.runAll Session.newEnvironment.1
      [.trace (.record ⟨⟨"planner", "plan_request"⟩, ⟨0, 500⟩, true⟩)]
    let after (method target : String) : Machine :=
      (Diagnostics.respond ⟨environment.identity, environment.tasks⟩ ⟨method, target, [], ""⟩
        ⟨⟨"2026-01-01T00:00:00"⟩, 0, ⟨0, 0⟩, fun n => .ofNat n⟩ before).2
    Session.newEnvironment = (Session.newEnvironment.1, .ok environment) ∧
    (after "GET" "/rpcz?all").metrics.trace.summary.map (·.labels) =
      [⟨"planner", "plan_request"⟩] ∧
    after "GET" "/threadz" = before ∧
    (after "POST" "/rpcz/reset").metrics.trace.summary = [] := by
  intro environment before after
  have hinit : Session.newEnvironment = (Session.newEnvironment.1, .ok environment) :=
    Session.newEnvironment_eq
  have htrace : Session.newEnvironment.1.metrics.trace = .empty :=
    (Environment.unused_init ⟨fun _ => rfl, rfl⟩ hinit).2
  have hlisted : before.metrics.trace.summary.map (·.labels) = [⟨"planner", "plan_request"⟩] := by
    change (Trace.record Session.newEnvironment.1.metrics.trace ⟨"planner", "plan_request"⟩
      ⟨0, 500⟩ true).summary.map (·.labels) = _
    rw [htrace]
    rfl
  have hleaves := respond_leaves [] [] hinit
    [.trace (.record ⟨⟨"planner", "plan_request"⟩, ⟨0, 500⟩, true⟩)]
    ⟨environment.identity, environment.tasks⟩
  obtain ⟨-, -, -, hcalls⟩ := hleaves ⟨"GET", "/rpcz?all", [], ""⟩
    ⟨⟨"2026-01-01T00:00:00"⟩, 0, ⟨0, 0⟩, fun n => .ofNat n⟩
  obtain ⟨-, -, -, htasks⟩ := hleaves ⟨"GET", "/threadz", [], ""⟩
    ⟨⟨"2026-01-01T00:00:00"⟩, 0, ⟨0, 0⟩, fun n => .ofNat n⟩
  obtain ⟨-, -, hreset, -⟩ := hleaves ⟨"POST", "/rpcz/reset", [], ""⟩
    ⟨⟨"2026-01-01T00:00:00"⟩, 0, ⟨0, 0⟩, fun n => .ofNat n⟩
  have hsame : (after "GET" "/rpcz?all").metrics.trace.summary = before.metrics.trace.summary :=
    (hcalls (by decide)).1
  refine ⟨hinit, ?_, (htasks (by decide)).2.1 (by decide), (hreset (by decide)).1⟩
  rw [hsame, hlisted]

end Diagnostics

end RoleDaemon

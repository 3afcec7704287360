import RoleDaemon.Environment.Diagnostics
import RoleDaemon.Proofs.Metrics.History
import RoleDaemon.Proofs.Metrics.Views

/-!
# Readiness on the Diagnostic Pages

Readiness is read in many places: as the snapshot of the three flags, as the answer that other programs
wait for, among all flags, and among the exported metrics.  All of them are views of one registry, which
agree, so no page contradicts another.

## Architecture

- `Diagnostics.get`: the answer to who gets a page
- `Readiness.PagesAgree`: all pages tell what the snapshot of the three flags tells
- `Readiness.pagesAgree`: so they do over a sound registry in which the flags are registered
- `Metrics.History.find?_readiness`: and they are, from the registration of the flags on

Main statements:
- `Metrics.History.views_agree`: the views of the metrics of a process agree, whatever was done to them
-/

namespace RoleDaemon

open Metrics Exposition Http

/-! ## §1 Pages -/

/-- The answer to who gets a page. -/
def Diagnostics.get (diagnostics : Diagnostics) (path : String) (occasion : Occasion)
    (machine : Machine) : Response :=
  (diagnostics.respond ⟨"GET", path, [], ""⟩ occasion machine).1

namespace Readiness

/-- The three flags by name. -/
def Snapshot.flags (snapshot : Snapshot) : List (String × Bool) :=
  [(roleFlag .planner, snapshot.planner), (roleFlag .worker, snapshot.worker),
    (serverFlag, snapshot.server)]

/-- All pages tell about readiness what the snapshot of the three flags tells: the status is the one of the
    daemon, and each flag is listed with its value and exported with one number. -/
structure PagesAgree (diagnostics : Diagnostics) (occasion : Occasion) (machine : Machine) : Prop where
  status : (diagnostics.get "/readyz" occasion machine).status =
    if (snapshot machine.metrics).server then 200 else 503
  body : (diagnostics.get "/readyz" occasion machine).body = .json (snapshot machine.metrics).toJson
  values : ∃ flags rest,
    (diagnostics.get "/varz" occasion machine).body = .json (.obj (("flags", .obj flags) :: rest)) ∧
    ∀ flag ∈ (snapshot machine.metrics).flags, ∀ value,
      (flag.1, value) ∈ flags ↔ value = .bool flag.2
  metrics : ∃ text lines, (diagnostics.get "/metrics" occasion machine).body = .text text ∧
    Exposition.read text = some lines ∧
    ∀ flag ∈ (snapshot machine.metrics).flags, ∃ help,
      linesNamed (exportName flag.1) lines =
        block (exportName flag.1) help "gauge" [] (if flag.2 then "1" else "0")

/-! ## §2 Pages and Registry -/

/-- What is got at the path of a page. -/
theorem get_of_route (diagnostics : Diagnostics) (occasion : Occasion) (machine : Machine)
    (path : String) (page : Page)
    (hroute : route? Diagnostics.routes (Request.path ⟨"GET", path, [], ""⟩) =
      some ⟨path, .get, page⟩) :
    diagnostics.get path occasion machine =
      (diagnostics.answer page occasion machine).1.withHeaders permissive := by
  unfold Diagnostics.get Diagnostics.respond dispatch
  rw [if_neg (by simp), hroute]
  simp

/-- A flag that is registered is found with the value that it reads. -/
theorem content_of_registered {metrics : Registry} {name : String}
    (h : (metrics.find? .flag name).isSome) : ∃ family, metrics.find? .flag name = some family ∧
      family.content = .flag ((metrics.flag? name).getD false) := by
  obtain ⟨family, hfind⟩ := Option.isSome_iff_exists.1 h
  obtain ⟨isSet, hcontent⟩ := Registry.exists_flag hfind
  refine ⟨family, hfind, ?_⟩
  rw [Registry.flag?, hfind, Option.bind_some, hcontent]
  rfl

/-- The flags are registered, so each one is found with the value that the snapshot tells. -/
theorem content_of_mem_flags {metrics : Registry}
    (hregistered : ∀ family ∈ families, (metrics.find? .flag family.name).isSome)
    {flag : String × Bool} (hflag : flag ∈ (snapshot metrics).flags) :
    ∃ family, metrics.find? .flag flag.1 = some family ∧ family.content = .flag flag.2 := by
  simp only [families, Family.flag, List.forall_mem_cons] at hregistered
  obtain ⟨hplanner, hworker, hserver, -⟩ := hregistered
  simp only [Snapshot.flags, List.mem_cons, List.not_mem_nil, or_false] at hflag
  obtain rfl | rfl | rfl := hflag
  · exact content_of_registered hplanner
  · exact content_of_registered hworker
  · exact content_of_registered hserver

/-- No number of the latency has the exported name of a readiness flag. -/
theorem isFree_of_mem_flags {metrics : Registry} {flag : String × Bool}
    (hflag : flag ∈ (snapshot metrics).flags) : metrics.IsFree (exportName flag.1) := by
  simp only [Snapshot.flags, List.mem_cons, List.not_mem_nil, or_false] at hflag
  obtain rfl | rfl | rfl := hflag
  · exact .inr (by decide : exportName (roleFlag .planner) ∉ Registry.latencyNames)
  · exact .inr (by decide : exportName (roleFlag .worker) ∉ Registry.latencyNames)
  · exact .inr (by decide : exportName serverFlag ∉ Registry.latencyNames)

/-- Among the flags in the JSON of a snapshot, a flag that is found is listed with its value only. -/
theorem mem_toJson_iff {metrics : Registry} (h : metrics.Sound) {name : String} {isSet : Bool}
    {family : Family} (hfind : metrics.find? .flag name = some family)
    (hcontent : family.content = .flag isSet) {value : Json} :
    (name, value) ∈ metrics.snapshot.flags.map (fun (name, isSet) => (name, Json.bool isSet)) ↔
      value = .bool isSet := by
  rw [List.mem_map]
  constructor
  · rintro ⟨⟨other, isSet'⟩, hentry, heq⟩
    obtain ⟨rfl, rfl⟩ := Prod.mk.inj heq
    obtain ⟨found, hfound, hvalue⟩ := (Registry.mem_flags_iff h).1 hentry
    obtain rfl := Option.some.inj (hfind.symm.trans hfound)
    rw [Content.flag.inj (hcontent.symm.trans hvalue)]
  · rintro rfl
    exact ⟨(name, isSet), (Registry.mem_flags_iff h).2 ⟨family, hfind, hcontent⟩, rfl⟩

/-- **The pages agree about readiness**, also while calls are traced. -/
theorem pagesAgree (diagnostics : Diagnostics) (occasion : Occasion) {machine : Machine}
    (h : machine.metrics.Sound)
    (hregistered : ∀ family ∈ families, (machine.metrics.find? .flag family.name).isSome) :
    PagesAgree diagnostics occasion machine := by
  have hready := get_of_route diagnostics occasion machine "/readyz" .readiness rfl
  have hvalues := get_of_route diagnostics occasion machine "/varz" .values rfl
  have hmetrics := get_of_route diagnostics occasion machine "/metrics" .metrics rfl
  -- every page shows the registry, and each flag is found there with the value of the snapshot
  refine ⟨by rw [hready]; rfl, by rw [hready]; rfl, ⟨_, _, by rw [hvalues]; rfl, ?_⟩,
    ⟨_, _, by rw [hmetrics]; rfl, Registry.read_encode h, ?_⟩⟩
  · intro flag hflag value
    obtain ⟨family, hfind, hcontent⟩ := content_of_mem_flags hregistered hflag
    exact mem_toJson_iff h hfind hcontent
  · intro flag hflag
    obtain ⟨family, hfind, hcontent⟩ := content_of_mem_flags hregistered hflag
    exact ⟨family.help, Registry.linesNamed_flag h hfind hcontent (isFree_of_mem_flags hflag)⟩

/-- Once the readiness flags could be registered, they are. -/
theorem registered_of_register {machine : Machine} (h : (register machine).2 = .ok ()) :
    ∀ family ∈ families, ((register machine).1.metrics.find? .flag family.name).isSome := by
  intro family hfamily
  have henroll : Registry.enroll (families.map fun family => ⟨family, none⟩) machine.metrics =
      ((register machine).1.metrics, .ok ()) := Prod.ext rfl h
  have hflag : family.content.kind? = some .flag := by
    simp only [families, List.mem_cons, List.not_mem_nil, or_false] at hfamily
    obtain rfl | rfl | rfl := hfamily <;> rfl
  rw [Registry.find?_enroll henroll (by decide), Option.isSome_or, Bool.or_eq_true]
  refine .inr (List.find?_isSome.2 ⟨family, ?_, Registry.isNamed_iff.2 ⟨hflag, rfl⟩⟩)
  simpa [Function.comp_def] using hfamily

end Readiness

/-! ## §3 Histories -/

namespace Metrics

/-- What is found stays found while no metric is removed. -/
theorem Registry.isSome_find?_of_prefix {registry later : Registry}
    (h : registry.families.map Family.identity <+: later.families.map Family.identity) {kind : Kind}
    {name : String} (hfind : (registry.find? kind name).isSome) :
    (later.find? kind name).isSome := by
  obtain ⟨family, hfamily, hnamed⟩ := List.find?_isSome.1 hfind
  obtain ⟨other, hother, hsame⟩ := List.mem_map.1 (h.subset (List.mem_map_of_mem hfamily))
  obtain ⟨hkind, hname⟩ := Registry.isNamed_iff.1 hnamed
  simp only [Family.identity, Prod.mk.injEq] at hsame
  obtain ⟨hotherName, -, -, hotherKind⟩ := hsame
  exact List.find?_isSome.2
    ⟨other, hother, Registry.isNamed_iff.2 ⟨hotherKind.trans hkind, hotherName.trans hname⟩⟩

namespace History

/-- The readiness flags are found from their registration on. -/
theorem find?_readiness (taken : List Net.Endpoint) (earlier later : List Operation)
    (h : (Readiness.register ((start taken).operateAll earlier).machine).2 = .ok ()) :
    ∀ family ∈ Readiness.families,
      (((start taken).operateAll (earlier ++ .readiness :: later)).machine.metrics.find? .flag
        family.name).isSome := by
  intro family hfamily
  rw [operateAll_append]
  exact Registry.isSome_find?_of_prefix
    (prefix_identity_operateAll (((start taken).operateAll earlier).operate .readiness) later)
    (Readiness.registered_of_register h family hfamily)

/-- **The views of the metrics agree.**  After any operations on the metrics of a new process, of which
    any may have failed:

    - the export, read back line by line, and the snapshot tell the same, and nothing else is exported;
    - where the readiness flags were registered at some time, all pages tell the same about readiness,
      whatever calls are traced. -/
theorem views_agree (taken : List Net.Endpoint) (operations : List Operation) :
    let history := (start taken).operateAll operations
    (∃ lines, Exposition.read history.machine.metrics.encode = some lines ∧
      history.machine.metrics.ViewsAgree history.entries lines) ∧
    (∀ earlier later, operations = earlier ++ .readiness :: later →
      (Readiness.register ((start taken).operateAll earlier).machine).2 = .ok () →
      ∀ trace diagnostics occasion, Readiness.PagesAgree diagnostics occasion
        { history.machine with metrics := { history.machine.metrics with trace } }) := by
  intro history
  have hbalanced : history.book.Balanced := balanced_operateAll taken operations
  have hsound : history.machine.metrics.Sound := hbalanced.sound
  constructor
  · exact ⟨_, Registry.read_encode hsound,
      hbalanced.viewsAgree (trace_operateAll taken operations)⟩
  · rintro earlier later rfl hregister trace diagnostics occasion
    -- the trace holds no metric of its own, so with any other trace the registry is as sound
    have htraced : Registry.Sound { history.machine.metrics with trace } :=
      ⟨hsound.distinct, hsound.wellNamed, hsound.described⟩
    exact Readiness.pagesAgree diagnostics occasion htraced
      (find?_readiness taken earlier later hregister)

/-- In a new process the flags can be registered, and once the one of the daemon is set, the page that
    other programs wait for says so. -/
theorem views_agree_ready :
    let machine := ((start []).operateAll [.readiness, .act (.setFlag Readiness.serverFlag)]).machine
    let diagnostics : Diagnostics := ⟨⟨"recordserviced@node-1:12050"⟩, 0⟩
    let occasion : Occasion := ⟨⟨"2026-01-01T00:00:00"⟩, 0, ⟨0, 0⟩, fun n => .ofNat n⟩
    Readiness.PagesAgree diagnostics occasion machine ∧
      (diagnostics.get "/readyz" occasion machine).status = 200 := by
  intro machine diagnostics occasion
  have hagree : Readiness.PagesAgree diagnostics occasion machine :=
    (views_agree [] [.readiness, .act (.setFlag Readiness.serverFlag)]).2 [] _ rfl rfl .empty
      diagnostics occasion
  have hready : (Readiness.snapshot machine.metrics).server = true := rfl
  exact ⟨hagree, by rw [hagree.status, hready]; rfl⟩

end History

end Metrics

end RoleDaemon


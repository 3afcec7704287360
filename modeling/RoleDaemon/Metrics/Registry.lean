import RoleDaemon.Cause
import RoleDaemon.Metrics.Name
import RoleDaemon.Rpc.Trace

/-!
# The Metrics of the Daemon

All metrics of a process live in one registry.  A metric is a flag, which is set once and stays set, a
counter, or a property, which takes one text and keeps it.  Each has a name within the daemon and a
name for the export, and no two metrics share an exported name.  The series of the RPC trace are
exported beside them.

A registration that fails leaves the registry as it was.  A metric that is there already is found
again under its name and kind, whatever help text is given.

Main definitions:
- `Registry`: the families in the order of registration, and the trace
- `Registry.declare`: finds or registers a metric
- `Registry.enroll`: registers metrics one after another, up to the first that fails
- `Registry.setFlag`, `Registry.increment`, `Registry.setProperty`: the writes
- `Registry.snapshot`: all values by daemon name
-/

namespace RoleDaemon.Metrics

open Rpc (Trace)

/-! ## §1 Families -/

/-- The kinds of metrics that are found by their name within the daemon. -/
inductive Kind where
  | flag
  | counter
  | property
  deriving DecidableEq, Repr

def Kind.name : Kind → String
  | flag => "flag"
  | counter => "counter"
  | property => "property"

/-- What a family measures.  The three series of calls take their values from the trace. -/
inductive Content where
  | flag (isSet : Bool)
  | counter (value : UInt64)
  | property (value? : Option String)
  | rpcCalls
  | rpcErrors
  | rpcLatency
  deriving DecidableEq, Repr

/-- The kind under which a family is found again; the series of the trace are not. -/
def Content.kind? : Content → Option Kind
  | flag _ => some .flag
  | counter _ => some .counter
  | property _ => some .property
  | _ => none

/-- A metric with both of its names. -/
structure Family where
  /-- The name within the daemon. -/
  name : String
  /-- The name in the export. -/
  exportName : String
  help : String
  content : Content
  deriving DecidableEq, Repr

namespace Family

/-- A flag that is not set. -/
def flag (name help : String) : Family :=
  ⟨name, Metrics.exportName name, help, .flag false⟩

/-- A counter at zero. -/
def counter (name help : String) : Family :=
  ⟨name, Metrics.exportName name, help, .counter 0⟩

def property (name help : String) : Family :=
  ⟨name, Metrics.exportName name, help, .property none⟩

/-- The number of calls by service and method. -/
def rpcCalls : Family :=
  ⟨"recordservice.rpc.calls", "recordservice_rpc_calls_total", "RPCs handled by method", .rpcCalls⟩

/-- The number of failed calls by service and method. -/
def rpcErrors : Family :=
  ⟨"recordservice.rpc.errors", "recordservice_rpc_errors_total", "Failed RPCs by method", .rpcErrors⟩

/-- The latency of calls by service and method. -/
def rpcLatency : Family :=
  ⟨"recordservice.rpc.duration", "recordservice_rpc_duration_seconds", "RPC latency by method",
    .rpcLatency⟩

/-- The family is the metric of the given kind and name. -/
def isNamed (kind : Kind) (name : String) (family : Family) : Bool :=
  family.content.kind? = some kind && family.name = name

end Family

/-! ## §2 The Registry -/

/-- The families in the order of registration, and the calls that were traced. -/
structure Registry where
  families : List Family
  trace : Trace
  deriving Repr

namespace Registry

/-- The registry without metrics. -/
def empty : Registry := ⟨[], .empty⟩

/-- The metric of the given kind and name. -/
def find? (registry : Registry) (kind : Kind) (name : String) : Option Family :=
  registry.families.find? (Family.isNamed kind name)

def flag? (registry : Registry) (name : String) : Option Bool :=
  (registry.find? .flag name).bind fun family =>
    match family.content with
    | .flag isSet => some isSet
    | _ => none

def counter? (registry : Registry) (name : String) : Option UInt64 :=
  (registry.find? .counter name).bind fun family =>
    match family.content with
    | .counter value => some value
    | _ => none

def property? (registry : Registry) (name : String) : Option String :=
  (registry.find? .property name).bind fun family =>
    match family.content with
    | .property value? => value?
    | _ => none

/-! ## §3 Registration -/

/-- Some metric has the exported name. -/
def isTaken (registry : Registry) (exportName : String) : Bool :=
  registry.families.any fun family => family.exportName = exportName

/-- What is wrong with the description of a metric: an empty help text, or a name that an exported
    metric may not have. -/
def descriptionFault? (family : Family) : Option String :=
  if family.help = "" then some "Error: empty help string"
  else if isValidName family.exportName then none
  else some ("Error: '" ++ family.exportName ++ "' is not a valid metric name")

/-- The metric is in the registry already. -/
def holds (registry : Registry) (family : Family) : Bool :=
  match family.content.kind? with
  | some kind => (registry.find? kind family.name).isSome
  | none => false

/-- Finds the metric of the family's kind and name, or adds the family. -/
def declare (registry : Registry) (family : Family) : Except Cause Registry :=
  if registry.holds family then .ok registry
  else
    match descriptionFault? family with
    | some fault =>
      let kind := (family.content.kind?.map Kind.name).getD "rpc"
      .error ⟨"Invalid " ++ kind ++ " metric " ++ family.name, [fault]⟩
    | none =>
      if registry.isTaken family.exportName then
        .error ⟨"Failed to register metric " ++ family.name,
          ["Duplicate metrics collector registration attempted"]⟩
      else .ok { registry with families := registry.families ++ [family] }

/-! ## §4 Writing -/

/-- The registry with the content of one metric changed. -/
def modify (registry : Registry) (kind : Kind) (name : String) (change : Content → Content) :
    Registry :=
  { registry with
    families := registry.families.map fun family =>
      if family.isNamed kind name then { family with content := change family.content }
      else family }

/-- Sets a flag.  Tells whether it was not set before. -/
def setFlag (registry : Registry) (name : String) : Bool × Registry :=
  (registry.flag? name == some false, registry.modify .flag name fun _ => .flag true)

/-- Adds to a counter, around the end of its 64 bits. -/
def increment (registry : Registry) (name : String) (amount : UInt64) : Registry :=
  registry.modify .counter name fun
    | .counter value => .counter (value + amount)
    | content => content

/-- Gives a property its value, when it has none.  Tells whether it had none. -/
def setProperty (registry : Registry) (name value : String) : Bool × Registry :=
  match registry.find? .property name with
  | some family =>
    if family.content = .property none then
      (true, registry.modify .property name fun _ => .property (some value))
    else (false, registry)
  | none => (false, registry)

/-- A metric to be registered, with the value that it gets when it is a property. -/
structure Enrolment where
  family : Family
  value? : Option String
  deriving DecidableEq, Repr

/-- Registers one metric, and gives it its value. -/
def enrollOne (registry : Registry) (enrolment : Enrolment) : Except Cause Registry :=
  (registry.declare enrolment.family).map fun registry =>
    match enrolment.value? with
    | some value => (registry.setProperty enrolment.family.name value).2
    | none => registry

/-- Registers metrics one after another, up to the first that fails; those before it stay. -/
def enroll : List Enrolment → Registry → Registry × Except Cause Unit
  | [], registry => (registry, .ok ())
  | enrolment :: rest, registry =>
    match registry.enrollOne enrolment with
    | .ok registry => enroll rest registry
    | .error cause => (registry, .error cause)

/-- Registers metrics without values. -/
def enrollAll (families : List Family) (registry : Registry) : Registry × Except Cause Unit :=
  enroll (families.map fun family => ⟨family, none⟩) registry

/-! ## §5 The Trace -/

def traceFamilies : List Family := [.rpcCalls, .rpcErrors, .rpcLatency]

/-- Registers the series of the trace.  It succeeds only once. -/
def addTrace (registry : Registry) : Registry × Except Cause Unit :=
  enrollAll traceFamilies registry

/-- The registry with the trace changed. -/
def modifyTrace (registry : Registry) (change : Trace → Trace) : Registry :=
  { registry with trace := change registry.trace }

/-! ## §6 Snapshots -/

/-- Named values in the order of the names. -/
def byName {α : Type} (values : List (String × α)) : List (String × α) :=
  values.mergeSort fun a b => decide (a.1 ≤ b.1)

end Registry

/-- The values of all metrics, each kind in the order of the names within the daemon; properties
    without a value are left out. -/
structure Snapshot where
  flags : List (String × Bool)
  counters : List (String × UInt64)
  properties : List (String × String)
  deriving DecidableEq, Repr

/-- The values of all metrics. -/
def Registry.snapshot (registry : Registry) : Snapshot :=
  { flags := byName <| registry.families.filterMap fun family =>
      match family.content with
      | .flag isSet => some (family.name, isSet)
      | _ => none
    counters := byName <| registry.families.filterMap fun family =>
      match family.content with
      | .counter value => some (family.name, value)
      | _ => none
    properties := byName <| registry.families.filterMap fun family =>
      match family.content with
      | .property (some value) => some (family.name, value)
      | _ => none }

/-- A snapshot as JSON. -/
def Snapshot.toJson (snapshot : Snapshot) : Json :=
  .obj [
    ("flags", .obj (snapshot.flags.map fun (name, isSet) => (name, .bool isSet))),
    ("counters", .obj (snapshot.counters.map fun (name, value) => (name, .nat value.toNat))),
    ("properties", .obj (snapshot.properties.map fun (name, value) => (name, .str value)))]

end RoleDaemon.Metrics

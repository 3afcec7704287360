import RoleDaemon.Metrics.Registry
import RoleDaemon.Number.Shortest

/-!
# The Export of Metrics

The metrics are exported as families of samples, in the order of the exported names; a family without
samples is left out.  The text of a family is a line of help, a line with its type, and a line for
each number.

Main definitions:
- `Registry.gather`: the families with their samples
- `Exposition.text`: the text of the export
- `Exposition.escapeValue`, `Exposition.escapeHelp`: how label values and help texts are written
-/

namespace RoleDaemon.Metrics

/-! ## §1 Samples -/

/-- Labels with their values. -/
abbrev Labels := List (String × String)

/-- The samples of a family. -/
inductive Samples where
  | gauge (samples : List (Labels × UInt64))
  | counter (samples : List (Labels × UInt64))
  | histogram (samples : List (Labels × Histogram))
  deriving DecidableEq, Repr

namespace Samples

/-- The number of samples. -/
def size : Samples → Nat
  | gauge samples => samples.length
  | counter samples => samples.length
  | histogram samples => samples.length

def typeName : Samples → String
  | gauge _ => "gauge"
  | counter _ => "counter"
  | histogram _ => "histogram"

end Samples

/-- A family with its samples. -/
structure Exposition where
  name : String
  help : String
  samples : Samples
  deriving DecidableEq, Repr

/-- The labels of a call, in the order of the label names. -/
def CallLabels.toLabels (labels : CallLabels) : Labels :=
  [("method", labels.method), ("service", labels.service)]

/-- The order of samples: by method, and by service within a method. -/
def CallLabels.sampleOrder (a b : CallLabels) : Bool :=
  decide (a.method < b.method) || (a.method == b.method && decide (a.service ≤ b.service))

def Series.samples {α : Type} (series : Series α) : List (Labels × α) :=
  (series.cells.mergeSort fun a b => a.1.sampleOrder b.1).map fun cell => (cell.1.toLabels, cell.2)

def Content.samples (trace : Rpc.Trace) : Content → Samples
  | flag isSet => .gauge [([], if isSet then 1 else 0)]
  | counter value => .counter [([], value)]
  | property none => .gauge []
  | property (some value) => .gauge [([("value", value)], 1)]
  | rpcCalls => .counter trace.calls.samples
  | rpcErrors => .counter trace.errors.samples
  | rpcLatency => .histogram trace.latency.samples

/-- The families that have samples, in the order of the exported names. -/
def Registry.gather (registry : Registry) : List Exposition :=
  let all := registry.families.map fun family =>
    (⟨family.exportName, family.help, family.content.samples registry.trace⟩ : Exposition)
  (all.filter fun family => family.samples.size != 0).mergeSort fun a b => decide (a.name ≤ b.name)

/-! ## §2 Text -/

namespace Exposition

/-- A character of a help text: backslashes and line breaks are escaped. -/
def escapeHelp (c : Char) : List Char :=
  if c = '\\' then ['\\', '\\'] else if c = '\n' then ['\\', 'n'] else [c]

/-- A character of a label value: quotes are escaped too. -/
def escapeValue (c : Char) : List Char :=
  if c = '"' then ['\\', '"'] else escapeHelp c

/-- A label with its value in quotes. -/
def labelChars (label : String × String) : List Char :=
  label.1.toList ++ '=' :: '"' :: (label.2.toList.flatMap escapeValue ++ ['"'])

/-- Labels in braces, nothing without labels. -/
def labelsChars (labels : Labels) : List Char :=
  if labels.isEmpty then []
  else '\x7b' :: (List.intercalate [','] (labels.map labelChars) ++ ['\x7d'])

def sampleLine (name : String) (labels : Labels) (value : Binary64) : List Char :=
  name.toList ++ labelsChars labels ++ ' ' :: (value.positional ++ ['\n'])

def countLine (name : String) (labels : Labels) (count : UInt64) : List Char :=
  sampleLine name labels (.ofNat count.toNat)

/-- The lines of a histogram: the running totals up to each bound and in all, the sum, and the
    number. -/
def histogramLines (name : String) (labels : Labels) (h : Histogram) : List Char :=
  (h.cumulative.flatMap fun (bound, count) =>
    countLine (name ++ "_bucket") (labels ++ [("le", String.ofList bound.positional)]) count) ++
  countLine (name ++ "_bucket") (labels ++ [("le", "+Inf")]) h.count ++
  sampleLine (name ++ "_sum") labels h.sum ++
  countLine (name ++ "_count") labels h.count

def sampleLines (name : String) : Samples → List Char
  | .gauge samples => samples.flatMap fun (labels, value) => countLine name labels value
  | .counter samples => samples.flatMap fun (labels, value) => countLine name labels value
  | .histogram samples => samples.flatMap fun (labels, h) => histogramLines name labels h

/-- All lines of a family. -/
def chars (family : Exposition) : List Char :=
  "# HELP ".toList ++ family.name.toList ++ ' ' :: (family.help.toList.flatMap escapeHelp) ++
  "\n# TYPE ".toList ++ family.name.toList ++ ' ' :: family.samples.typeName.toList ++ '\n' ::
  sampleLines family.name family.samples

end Exposition

/-- The export of all metrics as text. -/
def Registry.encode (registry : Registry) : String :=
  String.ofList (registry.gather.flatMap Exposition.chars)

end RoleDaemon.Metrics

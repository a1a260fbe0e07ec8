import CertSync.Bytes.Basic
import CertSync.Config.Basic
import CertSync.Hook.Basic
import Std.Data.ExtTreeMap

/-!
# Metrics

How often each remote operation was attempted and how often it failed. The counts are kept whether
or not they are registered; only registered ones are shown.

A family finds a count by a hash of its labels, and looks no closer than that. Labels with one hash
share a count, which goes by the labels that came first.
-/

namespace CertSync

/-- What an attempt is counted under: the type and the name of the operation. -/
structure MetricLabels where
  type : String
  name : String
deriving DecidableEq

namespace MetricLabels

/-- Labels stand in the order of their names, then types. -/
instance : Ord MetricLabels := ⟨compareLex (compareOn name) (compareOn type)⟩

/-- One step of the 64-bit FNV-1a hash. -/
def mix (hash : UInt64) (byte : UInt8) : UInt64 := (hash ^^^ byte.toUInt64) * 0x100000001b3

/-- The hash of the type and the name, with nothing in between. -/
def slot (labels : MetricLabels) : UInt64 :=
  (Bytes.ofText labels.type ++ Bytes.ofText labels.name).foldl mix 0xcbf29ce484222325

end MetricLabels

structure MetricCount where
  labels : MetricLabels
  value : Nat
deriving DecidableEq

/-- The counts of a family, by the hashes of their labels. -/
abbrev MetricFamily := Std.ExtTreeMap UInt64 MetricCount

namespace MetricFamily

/-- Count one more attempt under the hash of its labels. The first labels of a hash stay. -/
def increment (family : MetricFamily) (labels : MetricLabels) : MetricFamily :=
  let count := family.getD labels.slot { labels, value := 0 }
  family.insert labels.slot { count with value := count.value + 1 }

/-- All counts, in the order of their labels. -/
def counts (family : MetricFamily) : List MetricCount :=
  (family.toList.map Prod.snd).mergeSort fun a b => (compare a.labels b.labels).isLE

end MetricFamily

/-- The two families, of attempts and of failures among them. -/
structure Metrics where
  registered : Bool := false
  calls : MetricFamily := ∅
  errors : MetricFamily := ∅

namespace Metrics

/-- Let the families be shown. What they hold stays. -/
def register (m : Metrics) : Metrics := { m with registered := true }

/-- Count one attempt, and a failure if it was one. -/
def record (m : Metrics) (labels : MetricLabels) (failed : Bool) : Metrics :=
  { m with
    calls := m.calls.increment labels
    errors := if failed then m.errors.increment labels else m.errors }

/-- Count an attempt of a hook, if the configuration wants metrics. -/
def recordUnder (config : Config) (m : Metrics) (entry : ApiRecord) : Metrics :=
  if config.enableMetrics then m.record ⟨entry.type, entry.name⟩ entry.error.isSome else m

/-! ## The text form -/

/-- The backslash, the quote and the line feed are escaped in a label. -/
def escapeChar (c : Char) : List Char :=
  if c = '\\' then ['\\', '\\']
  else if c = '"' then ['\\', '"']
  else if c = '\n' then ['\\', 'n']
  else [c]

def escape (s : String) : String := String.ofList (s.toList.flatMap escapeChar)

/-- One line: the family, the labels with the name first, and the count. -/
def sample (family : String) (count : MetricCount) : String :=
  s!"{family}\x7bop_name=\"{escape count.labels.name}\"," ++
    s!"op_type=\"{escape count.labels.type}\"\x7d {count.value}"

/-- A family with its samples; one without samples is left out. -/
def familyLines (name help : String) (family : MetricFamily) : List String :=
  if family.isEmpty then []
  else s!"# HELP {name} {help}" :: s!"# TYPE {name} counter" :: family.counts.map (sample name)

def callsName : String := "acm_controller_api_calls_total"

def callsHelp : String := "Total number of ACM API call attempts by operation"

def errorsName : String := "acm_controller_api_call_errors_total"

def errorsHelp : String := "Total number of failed ACM API call attempts by operation"

/-- All lines, the failures before the attempts; none if nothing is registered. -/
def lines (m : Metrics) : List String :=
  if m.registered then
    familyLines errorsName errorsHelp m.errors ++ familyLines callsName callsHelp m.calls
  else []

end Metrics

end CertSync

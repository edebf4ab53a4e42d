/-
Recommendations in JSON text.

The same form is written to clients and read from the model, whose answers are treated leniently:
`status` stands for `severity`, numbers below zero and `null` mean no change, `null` for a list
means an empty one.
-/
import ClusterWatch.Json.Reader
import ClusterWatch.Recommendation

namespace ClusterWatch

open Json

namespace FlaggedWorkload

/-- The suggestion that a number stands for. -/
def suggestion (x : Option Binary64) : Option Nat :=
  (x.filter fun x => x.isFinite && !x.isBelowZero).map (Binary64.roundNat Decimal.maxU64)

def readSuggestion : Reader (Option Nat) := (readOptional readReal).map suggestion

def readSeverity : Reader Severity :=
  (readOptional readText).map fun label => (label.map Severity.ofLabel).getD .info

def members : List (Member FlaggedWorkload) :=
  [.needed "name" readText fun v w => { w with name := v },
   { Member.optional "severity" readSeverity fun v w => { w with severity := v } with
     aliases := ["status"] },
   .optional "cpu" readSuggestion fun v w => { w with cpu := v },
   .optional "memory" readSuggestion fun v w => { w with memory := v },
   .optional "replicas" readSuggestion fun v w => { w with replicas := v }]

def read : Reader FlaggedWorkload := readRecord members {}

def toJson (w : FlaggedWorkload) : Json :=
  .record
    [("name", some (.string w.name)),
     ("severity", some (.string w.severity.label)),
     ("cpu", w.cpu.map .nat),
     ("memory", w.memory.map .nat),
     ("replicas", w.replicas.map .nat)]

end FlaggedWorkload

namespace Recommendation

def readNamespaces : Reader (SortedMap (List FlaggedWorkload)) :=
  (readOptional (readMap (readOptional (readList FlaggedWorkload.read)))).map fun found =>
    (found.getD .empty).mapValues fun workloads => workloads.getD []

def members : List (Member Recommendation) :=
  [.optional "message" readText fun v r => { r with message := v },
   .optional "namespaces" readNamespaces fun v r => { r with namespaces := v }]

def read : Reader Recommendation := readRecord members {}

def toJson (r : Recommendation) : Json :=
  .record
    [("message", some (.string r.message)),
     ("namespaces",
       some (.object (r.namespaces.mapValues (Json.list FlaggedWorkload.toJson)).entries))]

end Recommendation
end ClusterWatch

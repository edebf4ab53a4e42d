/-
Pod samples of the exporter and the usage they add up to.

Only running pods count.  Each gives one workload in its namespace; a quantity that cannot be read
is treated like one that is missing.  The workloads of a namespace are listed by name, and those of
one name in the order of their samples.
-/
import ClusterWatch.Quantity
import ClusterWatch.Usage

namespace ClusterWatch

/-- One pod as the exporter reports it, its quantities still text. -/
structure PodSample where
  namespaceName : String := ""
  name : String := ""
  phase : String := ""
  ownerName : Option String := none
  ownerKind : Option String := none
  cpuRequest : Option String := none
  cpuLimit : Option String := none
  memoryRequest : Option String := none
  memoryLimit : Option String := none
  cpuUsage : Option String := none
  memoryUsage : Option String := none
deriving DecidableEq, Repr, Inhabited

namespace PodSample

open Json

def members : List (Member PodSample) :=
  [.needed "namespace" readText fun v s => { s with namespaceName := v },
   .needed "name" readText fun v s => { s with name := v },
   .optional "phase" readText fun v s => { s with phase := v },
   .optional "owner_name" (readOptional readText) fun v s => { s with ownerName := v },
   .optional "owner_kind" (readOptional readText) fun v s => { s with ownerKind := v },
   .optional "cpu_request" (readOptional readText) fun v s => { s with cpuRequest := v },
   .optional "cpu_limit" (readOptional readText) fun v s => { s with cpuLimit := v },
   .optional "memory_request" (readOptional readText) fun v s => { s with memoryRequest := v },
   .optional "memory_limit" (readOptional readText) fun v s => { s with memoryLimit := v },
   .optional "cpu_usage" (readOptional readText) fun v s => { s with cpuUsage := v },
   .optional "memory_usage" (readOptional readText) fun v s => { s with memoryUsage := v }]

def readAll : Reader (List PodSample) := readList (readRecord members {})

def isRunning (s : PodSample) : Bool := Text.sameIgnoringCase s.phase "running"

/-- A quantity that may be missing or unreadable. -/
def amount (read : String → Except Quantity.Fault Nat) (raw : Option String) : Option Nat :=
  raw.bind fun text => (read text).toOption

/-- The usage of one resource, from the texts of its three quantities. -/
def resource (read : String → Except Quantity.Fault Nat) (request limit used : Option String) :
    ResourceUsage :=
  { request := (amount read request).getD 0, limit := (amount read limit).getD 0 : ResourceUsage
    }.withUsed (amount read used)

def workload (s : PodSample) : WorkloadUsage where
  name := s.name
  ownerName := s.ownerName
  ownerKind := s.ownerKind
  cpu := resource Quantity.readMillicores s.cpuRequest s.cpuLimit s.cpuUsage
  memory := resource Quantity.readMebibytes s.memoryRequest s.memoryLimit s.memoryUsage

/-- The workloads of the running pods by namespace, in the order of the samples. -/
def group (samples : List PodSample) : UsageByNamespace :=
  (samples.filter isRunning).foldl
    (fun usage s => usage.upsert s.namespaceName fun found => found.getD [] ++ [s.workload]) .empty

/-- The workloads of the running pods by namespace and name. -/
def aggregate (samples : List PodSample) : UsageByNamespace :=
  (group samples).mapValues fun workloads => workloads.mergeSort fun a b => decide (a.name ≤ b.name)

end PodSample
end ClusterWatch

/-
Resource usage of workloads.

CPU is counted in thousandths of a core and memory in mebibytes.  A percentage relates what is used
to the limit and exists only where there is a limit.
-/
import ClusterWatch.Json.Reader

namespace ClusterWatch

/-- What a workload asks for, may use and does use of one resource. -/
structure ResourceUsage where
  request : Nat := 0
  limit : Nat := 0
  used : Option Nat := none
  percent : Option Binary64 := none
deriving DecidableEq, Repr, Inhabited

namespace ResourceUsage

def percentOf (used limit : Nat) : Binary64 :=
  Binary64.ofNat used / Binary64.ofNat limit * Binary64.ofNat 100

def withUsed (r : ResourceUsage) (used : Option Nat) : ResourceUsage :=
  { r with
    used
    percent := if r.limit = 0 then none else used.map (percentOf · r.limit) }

end ResourceUsage

/-- The usage of one workload. -/
structure WorkloadUsage where
  name : String := ""
  ownerName : Option String := none
  ownerKind : Option String := none
  cpu : ResourceUsage := {}
  memory : ResourceUsage := {}
  replicas : Option Nat := none
deriving DecidableEq, Repr, Inhabited

abbrev UsageByNamespace := SortedMap (List WorkloadUsage)

namespace WorkloadUsage

open Json

def members : List (Member WorkloadUsage) :=
  [.needed "name" readText fun v w => { w with name := v },
   .optional "ownerName" (readOptional readText) fun v w => { w with ownerName := v },
   .optional "ownerKind" (readOptional readText) fun v w => { w with ownerKind := v },
   .needed "cpuRequestMillicores" (readNat Decimal.maxU64)
     fun v w => { w with cpu := { w.cpu with request := v } },
   .needed "cpuLimitMillicores" (readNat Decimal.maxU64)
     fun v w => { w with cpu := { w.cpu with limit := v } },
   .needed "memoryRequestMib" (readNat Decimal.maxU64)
     fun v w => { w with memory := { w.memory with request := v } },
   .needed "memoryLimitMib" (readNat Decimal.maxU64)
     fun v w => { w with memory := { w.memory with limit := v } },
   .optional "cpuUsageMillicores" (readOptional (readNat Decimal.maxU64))
     fun v w => { w with cpu := { w.cpu with used := v } },
   .optional "memoryUsageMib" (readOptional (readNat Decimal.maxU64))
     fun v w => { w with memory := { w.memory with used := v } },
   .optional "cpuPercent" (readOptional readReal)
     fun v w => { w with cpu := { w.cpu with percent := v } },
   .optional "memoryPercent" (readOptional readReal)
     fun v w => { w with memory := { w.memory with percent := v } },
   .optional "replicas" (readOptional (readNat Decimal.maxU32))
     fun v w => { w with replicas := v }]

def read : Reader WorkloadUsage := readRecord members {}

end WorkloadUsage

def UsageByNamespace.read : Json.Reader UsageByNamespace :=
  Json.readMap (Json.readList WorkloadUsage.read)

end ClusterWatch

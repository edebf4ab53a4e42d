/-
# The usage that samples add up to

Nothing is lost, invented or put out of order.  A namespace is there if one of its pods runs; its
workloads are those of its running pods, each as often as it was sampled, by the bytes of their
names and then in the order of the samples (`IsUsageOf`).  No other usage is like that
(`IsUsageOf.unique`), so samples may arrive in any order as long as those of one name in one
namespace keep theirs.
-/
import ClusterWatch.PodSample
import ClusterWatch.Proofs.SortedMap
import ClusterWatch.Proofs.Text.ByteOrder
import ClusterWatch.Proofs.Text.Sorting
import Mathlib.Data.List.Induction
import Mathlib.Data.List.Perm.Basic

namespace ClusterWatch.PodSample

/-- The phase is `running`, in letters of either case. -/
def Runs (s : PodSample) : Prop := Text.lowerAscii s.phase = "running"

instance (s : PodSample) : Decidable s.Runs := inferInstanceAs (Decidable (_ = _))

def runningIn (ns : String) (samples : List PodSample) : List PodSample :=
  samples.filter fun s => decide s.Runs && decide (s.namespaceName = ns)

inductive Amount where
  | cpuRequest | cpuLimit | cpuUsage | memoryRequest | memoryLimit | memoryUsage

def Amount.text : Amount → PodSample → Option String
  | .cpuRequest, s => s.cpuRequest
  | .cpuLimit, s => s.cpuLimit
  | .cpuUsage, s => s.cpuUsage
  | .memoryRequest, s => s.memoryRequest
  | .memoryLimit, s => s.memoryLimit
  | .memoryUsage, s => s.memoryUsage

def Amount.read : Amount → String → Except Quantity.Fault Nat
  | .cpuRequest | .cpuLimit | .cpuUsage => Quantity.readMillicores
  | .memoryRequest | .memoryLimit | .memoryUsage => Quantity.readMebibytes

/-- A quantity, where there is a text and it can be read. -/
def Amount.value (amount : Amount) (s : PodSample) : Option Nat :=
  (amount.text s).bind fun text => (amount.read text).toOption

def without (s : PodSample) : Amount → PodSample
  | .cpuRequest => { s with cpuRequest := none }
  | .cpuLimit => { s with cpuLimit := none }
  | .cpuUsage => { s with cpuUsage := none }
  | .memoryRequest => { s with memoryRequest := none }
  | .memoryLimit => { s with memoryLimit := none }
  | .memoryUsage => { s with memoryUsage := none }

/-- What the workload of a sample is.  What is missing or cannot be read counts as nothing asked for
and no limit, and a percentage is there if and only if the resource is used and limited. -/
structure IsImage (s : PodSample) (w : WorkloadUsage) : Prop where
  name : w.name = s.name
  owner : w.ownerName = s.ownerName ∧ w.ownerKind = s.ownerKind
  replicas : w.replicas = none
  cpu : w.cpu.request = (Amount.cpuRequest.value s).getD 0 ∧
    w.cpu.limit = (Amount.cpuLimit.value s).getD 0 ∧ w.cpu.used = Amount.cpuUsage.value s
  memory : w.memory.request = (Amount.memoryRequest.value s).getD 0 ∧
    w.memory.limit = (Amount.memoryLimit.value s).getD 0 ∧
    w.memory.used = Amount.memoryUsage.value s
  cpuPercent : w.cpu.percent.isSome ↔ w.cpu.used.isSome ∧ w.cpu.limit ≠ 0
  memoryPercent : w.memory.percent.isSome ↔ w.memory.used.isSome ∧ w.memory.limit ≠ 0

/-- A usage with the workloads of the running pods by namespace, each list by the bytes of the names
and those of one name in the order of the samples. -/
structure IsUsageOf (samples : List PodSample) (usage : UsageByNamespace) : Prop where
  keys (ns : String) : ns ∈ usage.keys ↔ ∃ s ∈ samples, s.Runs ∧ s.namespaceName = ns
  perm {ns : String} {ws : List WorkloadUsage} : usage.find? ns = some ws →
    ws.Perm ((runningIn ns samples).map workload)
  ordered {ns : String} {ws : List WorkloadUsage} : usage.find? ns = some ws →
    ws.Pairwise fun a b => Text.bytes a.name ≤ Text.bytes b.name
  stable {ns : String} {ws : List WorkloadUsage} : usage.find? ns = some ws →
    ∀ name, ws.filter (·.name = name) = ((runningIn ns samples).filter (·.name = name)).map workload

variable {samples others : List PodSample} {usage : UsageByNamespace} {ns : String}

/-! ## Grouping -/

theorem isRunning_iff (s : PodSample) : s.isRunning = decide s.Runs := by
  have lower : Text.lowerAscii "running" = "running" := by decide
  rw [isRunning, Text.sameIgnoringCase, lower]
  exact beq_eq_decide _ _

theorem runningIn_ne_nil_iff :
    runningIn ns samples ≠ [] ↔ ∃ s ∈ samples, s.Runs ∧ s.namespaceName = ns := by
  simp [runningIn]

theorem runningIn_append (l r : List PodSample) :
    runningIn ns (l ++ r) = runningIn ns l ++ runningIn ns r :=
  List.filter_append ..

theorem find?_group (samples : List PodSample) (ns : String) :
    (group samples).find? ns =
      if runningIn ns samples = [] then none else some ((runningIn ns samples).map workload) := by
  induction samples using List.reverseRecOn with
  | nil => rfl
  | append_singleton samples s ih =>
      rw [runningIn_append]
      by_cases running : s.Runs
      · have step : group (samples ++ [s]) =
            (group samples).upsert s.namespaceName fun found => found.getD [] ++ [s.workload] := by
          simp [group, List.filter_append, List.foldl_append, isRunning_iff, running]
        rw [step, SortedMap.find?_upsert]
        by_cases here : ns = s.namespaceName
        · subst here
          have counted : runningIn s.namespaceName [s] = [s] := by simp [runningIn, running]
          have before : ((group samples).find? s.namespaceName).getD [] =
              (runningIn s.namespaceName samples).map workload := by
            rw [ih]
            split
            · next nothing => rw [nothing]; rfl
            · rfl
          simp [counted, before]
        · have elsewhere : runningIn ns [s] = [] := by
            simpa [runningIn, running] using fun same => here same.symm
          simp [here, elsewhere, ih]
      · have step : group (samples ++ [s]) = group samples := by
          simp [group, List.filter_append, isRunning_iff, running]
        have nothing : runningIn ns [s] = [] := by simp [runningIn, running]
        rw [step, nothing, List.append_nil, ih]

theorem find?_aggregate (samples : List PodSample) (ns : String) :
    (aggregate samples).find? ns =
      if runningIn ns samples = [] then none
      else some (Text.sortedBy WorkloadUsage.name ((runningIn ns samples).map workload)) := by
  rw [aggregate, SortedMap.find?_mapValues, find?_group]
  split <;> rfl

theorem filter_map_workload (name : String) (l : List PodSample) :
    (l.map workload).filter (·.name = name) = (l.filter (·.name = name)).map workload :=
  List.filter_map ..

theorem isUsageOf_aggregate (samples : List PodSample) : IsUsageOf samples (aggregate samples) := by
  have sorted {ns : String} {ws : List WorkloadUsage}
      (found : (aggregate samples).find? ns = some ws) :
      ws = Text.sortedBy WorkloadUsage.name ((runningIn ns samples).map workload) := by
    rw [find?_aggregate] at found
    split at found
    · cases found
    · exact (Option.some.inj found).symm
  refine ⟨fun ns => ?_, fun found => ?_, fun found => ?_, fun found name => ?_⟩
  · rw [SortedMap.mem_keys_iff, find?_aggregate, ← runningIn_ne_nil_iff]
    split <;> simp [*]
  · rw [sorted found]
    exact Text.perm_sortedBy
  · rw [sorted found]
    simpa only [Text.bytes_le_iff] using Text.pairwise_sortedBy
  · rw [sorted found, Text.filter_sortedBy, filter_map_workload]

/-! ## What the usage depends on -/

/-- The same workloads come from the running samples of each namespace and name, in the same
order. -/
def Alike (samples others : List PodSample) : Prop :=
  ∀ ns name, ((runningIn ns samples).filter (·.name = name)).map workload =
    ((runningIn ns others).filter (·.name = name)).map workload

theorem Alike.symm (alike : Alike samples others) : Alike others samples :=
  fun ns name => (alike ns name).symm

theorem Alike.runningIn_eq_nil (alike : Alike samples others)
    (nothing : runningIn ns samples = []) : runningIn ns others = [] := by
  refine List.eq_nil_iff_forall_not_mem.mpr fun s there => ?_
  have named : s ∈ (runningIn ns others).filter (·.name = s.name) :=
    List.mem_filter.mpr ⟨there, by simp⟩
  have none_named := alike ns s.name
  rw [nothing, List.filter_nil, List.map_nil, eq_comm, List.map_eq_nil_iff] at none_named
  rw [none_named] at named
  cases named

theorem IsUsageOf.find?_eq_none (is : IsUsageOf samples usage)
    (nothing : runningIn ns samples = []) : usage.find? ns = none := by
  rw [Option.eq_none_iff_forall_ne_some]
  intro ws found
  exact runningIn_ne_nil_iff.mpr ((is.keys ns).mp ((usage.mem_keys_iff ns).mpr ⟨ws, found⟩)) nothing

theorem IsUsageOf.exists_find? (is : IsUsageOf samples usage)
    (some_run : runningIn ns samples ≠ []) : ∃ ws, usage.find? ns = some ws :=
  (usage.mem_keys_iff ns).mp ((is.keys ns).mpr (runningIn_ne_nil_iff.mp some_run))

/-- Samples that are alike have one usage only. -/
theorem IsUsageOf.unique {usage' : UsageByNamespace} (is : IsUsageOf samples usage)
    (is' : IsUsageOf others usage') (alike : Alike samples others) : usage = usage' := by
  refine SortedMap.ext_find? fun ns => ?_
  by_cases nothing : runningIn ns samples = []
  · rw [is.find?_eq_none nothing, is'.find?_eq_none (alike.runningIn_eq_nil nothing)]
  · obtain ⟨ws, found⟩ := is.exists_find? nothing
    obtain ⟨ws', found'⟩ := is'.exists_find? (mt alike.symm.runningIn_eq_nil nothing)
    have first := is.ordered found
    have second := is'.ordered found'
    simp only [Text.bytes_le_iff] at first second
    have named (name : String) : ws.filter (·.name = name) = ws'.filter (·.name = name) := by
      rw [is.stable found, is'.stable found', alike ns name]
    rw [found, found', Text.eq_of_sorted first second named]

theorem Alike.aggregate_eq (alike : Alike samples others) : aggregate samples = aggregate others :=
  (isUsageOf_aggregate samples).unique (isUsageOf_aggregate others) alike

def named (ns name : String) (samples : List PodSample) : List PodSample :=
  samples.filter fun s => decide ((s.namespaceName, s.name) = (ns, name))

theorem filter_runningIn (ns name : String) (samples : List PodSample) :
    (runningIn ns samples).filter (·.name = name) = (named ns name samples).filter (·.Runs) := by
  rw [runningIn, named, List.filter_filter, List.filter_filter]
  refine List.filter_congr fun s _ => ?_
  simp only [Prod.mk.injEq, Bool.decide_and]
  ac_rfl

theorem alike_of_named (same : ∀ ns name, named ns name samples = named ns name others) :
    Alike samples others := by
  intro ns name
  rw [filter_runningIn, filter_runningIn, same]

theorem named_eq_of_nodup (perm : samples.Perm others)
    (distinct : (samples.map fun s => (s.namespaceName, s.name)).Nodup) (ns name : String) :
    named ns name samples = named ns name others := by
  have part : (named ns name samples).Perm (named ns name others) := perm.filter _
  have apart : ((named ns name samples).map fun s => (s.namespaceName, s.name)).Nodup :=
    distinct.sublist (List.filter_sublist.map _)
  have level : ∀ s ∈ named ns name samples, (s.namespaceName, s.name) = (ns, name) :=
    fun s there => of_decide_eq_true (List.mem_filter.mp there).2
  match list : named ns name samples with
  | [] => rw [list] at part; exact part.nil_eq
  | [s] => rw [list] at part; exact (List.singleton_perm.mp part)
  | s :: t :: rest =>
      rw [list] at apart level
      have equal := (level s (by simp)).trans (level t (by simp)).symm
      simp [equal] at apart

theorem workload_without {s : PodSample} {amount : Amount} {text : String} {fault : Quantity.Fault}
    (present : amount.text s = some text) (unreadable : amount.read text = .error fault) :
    (s.without amount).workload = s.workload := by
  cases amount <;> simp only [Amount.text, Amount.read] at present unreadable <;>
    simp [workload, without, resource, PodSample.amount, present, unreadable, Except.toOption]

theorem alike_exchange {s t : PodSample} (before after : List PodSample)
    (phase : t.phase = s.phase) (ns_eq : t.namespaceName = s.namespaceName)
    (name_eq : t.name = s.name) (same : t.workload = s.workload) :
    Alike (before ++ t :: after) (before ++ s :: after) := by
  intro ns name
  have running : decide t.Runs = decide s.Runs := decide_eq_decide.mpr (by rw [Runs, Runs, phase])
  have one : ((runningIn ns [t]).filter (·.name = name)).map workload =
      ((runningIn ns [s]).filter (·.name = name)).map workload := by
    simp only [runningIn, List.filter_cons, List.filter_nil, running, ns_eq]
    split
    · simp only [List.filter_cons, List.filter_nil, name_eq]
      split
      · rw [List.map_singleton, List.map_singleton, same]
      · rfl
    · rfl
  rw [List.append_cons before t after, List.append_cons before s after]
  simp only [runningIn_append, List.filter_append, List.map_append, one]

theorem alike_without {s : PodSample} {amount : Amount} {text : String} {fault : Quantity.Fault}
    (before after : List PodSample) (present : amount.text s = some text)
    (unreadable : amount.read text = .error fault) :
    Alike (before ++ s.without amount :: after) (before ++ s :: after) := by
  have same := workload_without present unreadable
  cases amount <;> exact alike_exchange before after rfl rfl rfl same

/-! ## The workload of a sample -/

theorem percent_resource (read : String → Except Quantity.Fault Nat)
    (request limit used : Option String) :
    (resource read request limit used).percent.isSome ↔
      (resource read request limit used).used.isSome ∧
        (resource read request limit used).limit ≠ 0 := by
  simp only [resource, ResourceUsage.withUsed]
  split
  · simp [*]
  · simp [*]

theorem isImage_workload (s : PodSample) : IsImage s s.workload where
  name := rfl
  owner := ⟨rfl, rfl⟩
  replicas := rfl
  cpu := ⟨rfl, rfl, rfl⟩
  memory := ⟨rfl, rfl, rfl⟩
  cpuPercent := percent_resource ..
  memoryPercent := percent_resource ..

/-! ## The usage as a whole -/

/-- The usage of samples has the workloads of the running pods.  A quantity that cannot be read
counts as missing, wherever it stands, and only samples of one name in one namespace are told apart
by their order. -/
theorem aggregate_exact (samples : List PodSample) :
    IsUsageOf samples (aggregate samples) ∧ (∀ s ∈ samples, IsImage s s.workload) ∧
    (∀ before s after, samples = before ++ s :: after → ∀ amount text fault,
      Amount.text amount s = some text → amount.read text = .error fault →
        aggregate (before ++ s.without amount :: after) = aggregate samples) ∧
    (∀ others, (∀ ns name, named ns name others = named ns name samples) →
      aggregate others = aggregate samples) ∧
    (∀ others, others.Perm samples → (samples.map fun s => (s.namespaceName, s.name)).Nodup →
      aggregate others = aggregate samples) := by
  refine ⟨isUsageOf_aggregate samples, fun s _ => isImage_workload s, ?_,
    fun others same => (alike_of_named same).aggregate_eq, ?_⟩
  · rintro before s after rfl amount text fault present unreadable
    exact (alike_without before after present unreadable).aggregate_eq
  · intro others perm distinct
    exact (alike_of_named (named_eq_of_nodup perm.symm distinct)).symm.aggregate_eq

/-- Two pods of one namespace, the limit of the first one no quantity. -/
def pair : List PodSample :=
  [{ namespaceName := "prod", name := "web", phase := "Running", cpuLimit := some "lots" },
   { namespaceName := "prod", name := "api", phase := "RUNNING" }]

theorem aggregate_exact_pair :
    aggregate pair.reverse = aggregate pair ∧
      aggregate (pair.map fun s => { s with cpuLimit := none }) = aggregate pair := by
  obtain ⟨-, -, unreadable, -, order⟩ := aggregate_exact pair
  have fault : Quantity.readMillicores "lots" = .error (.unknownSuffix "lots" "lots") := by rfl
  exact ⟨order _ (List.reverse_perm pair) (by decide),
    unreadable [] _ _ rfl .cpuLimit "lots" _ rfl fault⟩

end ClusterWatch.PodSample

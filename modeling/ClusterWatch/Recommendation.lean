/-
Recommendations of the model.

A recommendation is a summary and, for each namespace, a list of flagged workloads with suggested
resources.  Filtering visits the workloads in ascending order of their namespaces and in list order,
each once, and passes a state from one decision to the next.
-/
import ClusterWatch.Severity
import ClusterWatch.SortedMap

namespace ClusterWatch

/-- A workload that needs attention.  A missing suggestion means no change. -/
structure FlaggedWorkload where
  name : String := ""
  severity : Severity := .info
  cpu : Option Nat := none
  memory : Option Nat := none
  replicas : Option Nat := none
deriving DecidableEq, Repr, Inhabited

/-- The outcome of one analysis. -/
structure Recommendation where
  message : String := ""
  namespaces : SortedMap (List FlaggedWorkload) := .empty
deriving DecidableEq, Repr, Inhabited

namespace Recommendation

/-- The flagged workloads with their namespaces, in the order in which they are visited. -/
def flagged (r : Recommendation) : List (String × FlaggedWorkload) :=
  r.namespaces.entries.flatMap fun (ns, workloads) => workloads.map fun w => (ns, w)

def flaggedCount (r : Recommendation) : Nat := r.namespaces.values.flatten.length

def hasFlagged (r : Recommendation) : Bool := 0 < r.flaggedCount

/-- A decision about a flagged workload of a namespace that depends on a state and changes it. -/
abbrev Decision (σ : Type) := σ → String → FlaggedWorkload → Bool × σ

/-- The workloads of one namespace that are kept, and the state after the last decision. -/
def retainIn {σ : Type} (keep : Decision σ) (s : σ) (ns : String) :
    List FlaggedWorkload → List FlaggedWorkload × σ
  | [] => ([], s)
  | w :: ws =>
      let (kept, s) := keep s ns w
      let (rest, s) := retainIn keep s ns ws
      (if kept then w :: rest else rest, s)

/-- The recommendation with the kept workloads alone and without namespaces that have none left. -/
def retain {σ : Type} (keep : Decision σ) (s : σ) (r : Recommendation) : Recommendation × σ :=
  let (namespaces, s) := r.namespaces.mapAccum (retainIn keep) s
  ({ r with namespaces := namespaces.filter fun _ workloads => !workloads.isEmpty }, s)

end Recommendation
end ClusterWatch

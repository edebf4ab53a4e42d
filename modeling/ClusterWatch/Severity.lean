/-
Severity tiers of flagged workloads.

The tiers are ordered: `info`, then `warning`, then `critical`.  A label is read without regard to
case and to blanks around it, and a label that names no tier means `info`.
-/
import ClusterWatch.Text.Blank
import ClusterWatch.Text.Letters

namespace ClusterWatch

/-- How urgent a flagged workload is. -/
inductive Severity where
  | info
  | warning
  | critical
deriving DecidableEq, Repr, Inhabited

namespace Severity

/-- The place of a tier in their order. -/
def rank : Severity → Nat
  | info => 0
  | warning => 1
  | critical => 2

instance : Ord Severity := ⟨fun a b => compare a.rank b.rank⟩
instance : LE Severity := ⟨fun a b => a.rank ≤ b.rank⟩
instance (a b : Severity) : Decidable (a ≤ b) := inferInstanceAs (Decidable (a.rank ≤ b.rank))

def label : Severity → String
  | info => "info"
  | warning => "warning"
  | critical => "critical"

def ofLabel (text : String) : Severity :=
  match Text.lowerAscii (Text.trim text) with
  | "critical" => critical
  | "warning" => warning
  | "warn" => warning
  | _ => info

end Severity
end ClusterWatch

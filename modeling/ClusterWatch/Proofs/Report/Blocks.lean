/-
# What a message says

A message is its header and a block for each namespace that has workloads.  A `Block` is what such a
block says, apart from its wording: how many workloads there are, how many of each tier, and the
names under a title.  What has to be true of it is said of the workloads alone (`Block.Describes`).

`blockOf` finds a block that is true, and it looks at the namespace and its workloads and at nothing
else.  So a message is the same wherever the blocks are, and a block is the same wherever the counts
of the tiers are and the names of the tier that is named.
-/
import ClusterWatch.Proofs.Recommendation.Sifting
import ClusterWatch.Proofs.Report
import Mathlib.Algebra.Ring.Nat
import Mathlib.Data.List.Forall2

namespace ClusterWatch.Report

/-! ## Blocks -/

/-- What a block says: its namespace, the count of all workloads, the counts of the tiers, and names
with the title over them. -/
structure Block where
  ns : String
  count : Nat
  tiers : List (Severity × Nat)
  named : Option (String × List String)
deriving DecidableEq, Repr

/-- The names under their title. -/
def nameText : Option (String × List String) → List String
  | some (title, names) =>
      ["", "*" ++ title ++ ":*"] ++ names.map fun name => "- `" ++ name ++ "`"
  | none => []

def Block.lines (b : Block) : List String :=
  ["*Namespace:* `" ++ b.ns ++ "`", "*Flagged workloads:* " ++ Decimal.ofNat b.count] ++
    (b.tiers.map fun (tier, n) => "*" ++ tierTitle tier ++ ":* " ++ Decimal.ofNat n) ++
    nameText b.named ++ [""]

def Block.text (b : Block) : String := String.join (b.lines.map (· ++ "\n"))

/-- A tier that some workload is in, and none is in a tier above it. -/
def IsMostSevere (tier : Severity) (workloads : List FlaggedWorkload) : Prop :=
  (∃ w ∈ workloads, w.severity = tier) ∧ ∀ w ∈ workloads, w.severity ≤ tier

/-- The first names of the workloads in a tier, five of them if there are so many. -/
structure FirstNames (tier : Severity) (workloads : List FlaggedWorkload) (names : List String) :
    Prop where
  front : names <+: (workloads.filter fun w => w.severity = tier).map (·.name)
  length_eq : names.length = min 5 (countOf tier workloads)

/-- What is named of workloads: the first ones of the most severe tier, and none if it is the
lowest. -/
inductive Named (workloads : List FlaggedWorkload) : Option (String × List String) → Prop
  | critical {names : List String} : IsMostSevere .critical workloads →
      FirstNames .critical workloads names → Named workloads (some ("Critical workloads", names))
  | warning {names : List String} : IsMostSevere .warning workloads →
      FirstNames .warning workloads names →
      Named workloads (some ("Workloads with warnings", names))
  | nothing : (∀ w ∈ workloads, w.severity = .info) → Named workloads none

/-- What a block has to say about the workloads of a namespace. -/
structure Block.Describes (b : Block) (ns : String) (workloads : List FlaggedWorkload) :
    Prop where
  ns_eq : b.ns = ns
  count_eq : b.count = workloads.length
  total : (b.tiers.map Prod.snd).sum = b.count
  mem_tiers (tier : Severity) (n : Nat) : (tier, n) ∈ b.tiers ↔ 0 < n ∧ n = countOf tier workloads
  descending : (b.tiers.map Prod.fst).Pairwise fun upper lower => ¬upper ≤ lower
  named : Named workloads b.named

/-! ## Counts -/

def shown (r : Recommendation) : List (String × List FlaggedWorkload) :=
  r.namespaces.entries.filter fun e => !e.2.isEmpty

/-- The same workloads in another order, but for those whose names are listed. -/
structure Reordered (workloads workloads' : List FlaggedWorkload) : Prop where
  perm : workloads.Perm workloads'
  listed {tier : Severity} : tier ≠ .info → IsMostSevere tier workloads →
    workloads'.filter (fun w => w.severity = tier) = workloads.filter fun w => w.severity = tier

/-- Two recommendations whose namespaces have the same workloads, in another order where it does
not matter.  Namespaces without workloads do not matter either. -/
def Alike (r r' : Recommendation) : Prop :=
  List.Forall₂ (fun e e' => e.1 = e'.1 ∧ Reordered e.2 e'.2) (shown r) (shown r')

def sorted : Recommendation where
  namespaces := .ofList
    [("web", [⟨"api", .critical, none, none, none⟩, ⟨"login", .critical, none, none, none⟩,
       ⟨"queue", .warning, none, none, none⟩, ⟨"cache", .info, none, none, none⟩])]

end ClusterWatch.Report

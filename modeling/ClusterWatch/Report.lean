/-
The alert message.

A header counts all flagged workloads and says when they were found.  Then each namespace that has
any gets a block, in ascending order of the names: its count, the counts of the tiers that occur,
and the names of the first few workloads of its most severe tier.
-/
import ClusterWatch.Calendar
import ClusterWatch.Recommendation

namespace ClusterWatch.Report

/-- How many workloads a block names. -/
def mostListed : Nat := 5

def countOf (tier : Severity) (workloads : List FlaggedWorkload) : Nat :=
  workloads.countP fun w => w.severity = tier

def tierTitle : Severity → String
  | .critical => "Critical (immediate action)"
  | .warning => "Warnings (need attention)"
  | .info => "Informational"

/-- The line that counts a tier, none if nothing is in it. -/
def tierLines (workloads : List FlaggedWorkload) (tier : Severity) : List String :=
  match countOf tier workloads with
  | 0 => []
  | n => ["*" ++ tierTitle tier ++ ":* " ++ Decimal.ofNat n]

/-- The tier whose workloads are named, and the title over their names. -/
def listedTier? (workloads : List FlaggedWorkload) : Option (Severity × String) :=
  if 0 < countOf .critical workloads then some (.critical, "Critical workloads")
  else if 0 < countOf .warning workloads then some (.warning, "Workloads with warnings")
  else none

/-- The names that a block lists. -/
def listedNames (workloads : List FlaggedWorkload) : List String :=
  match listedTier? workloads with
  | some (tier, _) => ((workloads.filter fun w => w.severity = tier).take mostListed).map (·.name)
  | none => []

def nameLines (workloads : List FlaggedWorkload) : List String :=
  match listedTier? workloads with
  | some (_, title) =>
      ["", "*" ++ title ++ ":*"] ++ (listedNames workloads).map fun name => "- `" ++ name ++ "`"
  | none => []

/-- The block of a namespace. -/
def blockLines (ns : String) (workloads : List FlaggedWorkload) : List String :=
  ["*Namespace:* `" ++ ns ++ "`",
   "*Flagged workloads:* " ++ Decimal.ofNat workloads.length] ++
    [Severity.critical, .warning, .info].flatMap (tierLines workloads) ++
    nameLines workloads ++ [""]

def headerLines (count : Nat) (scannedAt : Instant) : List String :=
  ["*Kubernetes resource report*",
   "",
   "*Detected:* " ++ Decimal.ofNat count ++ " workloads need attention",
   "*Scan time:* " ++ scannedAt.toMessageText,
   ""]

def lines (r : Recommendation) (scannedAt : Instant) : List String :=
  headerLines r.flaggedCount scannedAt ++
    (r.namespaces.entries.filter fun (_, workloads) => !workloads.isEmpty).flatMap
      fun (ns, workloads) => blockLines ns workloads

/-- The message about a recommendation. -/
def text (r : Recommendation) (scannedAt : Instant) : String :=
  String.join ((lines r scannedAt).map (· ++ "\n"))

end ClusterWatch.Report

/-
The prompt that asks the model for recommendations.

Fixed instructions come first, then the wanted style if there is one, then the usage of every
namespace in ascending order.  Percentages have one decimal place.
-/
import ClusterWatch.Number.Binary64.Fixed
import ClusterWatch.Text.Blank
import ClusterWatch.Usage

namespace ClusterWatch.Prompt

def instructions : List String :=
  ["Analyze the following Kubernetes pod resource usage and recommend resource adjustments.",
   "Identify pods that are over- or under-provisioned based on their usage.",
   "Respond ONLY with JSON in the following shape, without any other text:",
   "",
   "\x7b",
   "  \"message\": \"overall analysis and recommendations\",",
   "  \"namespaces\": \x7b",
   "    \"namespace-name\": [",
   "      \x7b",
   "        \"name\": \"pod-name\",",
   "        \"cpu\": 500,",
   "        \"memory\": 128,",
   "        \"status\": \"warning\"",
   "      \x7d",
   "    ]",
   "  \x7d",
   "\x7d",
   "",
   "Rules:",
   "1. \"cpu\" is the recommended CPU limit in millicores and \"memory\" the recommended memory " ++
     "limit in Mi. Use -1 when no change is needed.",
   "2. CPU usage consistently below 30% of the limit: suggest lowering the CPU limit " ++
     "(status=warning).",
   "3. CPU usage consistently above 80% of the limit: suggest raising the CPU limit " ++
     "(status=critical).",
   "4. Memory usage consistently below 40% of the limit: suggest lowering the memory limit " ++
     "(status=warning).",
   "5. Memory usage consistently above 75% of the limit: suggest raising the memory limit " ++
     "(status=critical).",
   "6. Only include pods that need at least one adjustment.",
   "7. \"status\" is one of \"info\", \"warning\" or \"critical\"."]

def styleLines (style : String) : List String :=
  let style := Text.trim style
  if style.isEmpty then []
  else ["", "Write the \"message\" field in this style: " ++ style]

def resourceLine (title unit : String) (r : ResourceUsage) : String :=
  let limit := "  " ++ title ++ " limit: " ++ Decimal.ofNat r.limit ++ unit ++ ", usage: "
  match r.used, r.percent with
  | some used, some percent =>
      limit ++ Decimal.ofNat used ++ unit ++ " (" ++ percent.toFixed 1 ++ "%)"
  | _, _ => limit ++ "unknown"

def workloadLines (w : WorkloadUsage) : List String :=
  ["- Pod: " ++ w.name, resourceLine "CPU" "m" w.cpu, resourceLine "Memory" "Mi" w.memory]

def namespaceLines (ns : String) (workloads : List WorkloadUsage) : List String :=
  ("Namespace: " ++ ns) :: workloads.flatMap workloadLines ++ [""]

/-- The closing reminder, which ends without a line break. -/
def reminder : String :=
  "Return ONLY the JSON object described above, without Markdown fences or any text before or " ++
    "after it."

def build (usage : UsageByNamespace) (style : String) : String :=
  let lines := instructions ++ styleLines style ++
    ["", "Current resource data by namespace:", ""] ++
    usage.entries.flatMap fun (ns, workloads) => namespaceLines ns workloads
  String.join (lines.map (· ++ "\n")) ++ reminder

end ClusterWatch.Prompt

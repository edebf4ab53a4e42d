/-
Results of checks in JSON text.

An analysis is its recommendation.  A full check names its outcome beside the recommendation, with
the counts and the deliveries that belong to it.
-/
import ClusterWatch.Check
import ClusterWatch.Recommendation.Format

namespace ClusterWatch.Check

def Outcome.fields (o : Outcome) : List (String × Option Json) :=
  ("outcome", some (.string o.label)) ::
    match o with
    | nothingToReport => []
    | suppressed flagged => [("flagged", some (.nat flagged))]
    | dispatched flagged announced delivery =>
        [("flagged", some (.nat flagged)), ("announced", some (.nat announced)),
         ("report", some delivery.toJson)]

def Result.toJson (r : Result) : Json :=
  match r.outcome with
  | none => r.recommendation.toJson
  | some outcome => .record (("recommendation", some r.recommendation.toJson) :: outcome.fields)

end ClusterWatch.Check

/-
Recommendations in the free text of a model.

The whole text is tried first.  A model that wraps its answer in greetings or code fences is
understood by the span from the first opening brace to the last closing brace.
-/
import ClusterWatch.Failure
import ClusterWatch.Recommendation.Format

namespace ClusterWatch.Recommendation

/-- The span from the first opening brace to the last closing brace. -/
def braceSpan? (cs : List Char) : Option (List Char) :=
  match (cs.dropWhile (· != '{')).reverse.dropWhile (· != '}') with
  | [] => none
  | span => some span.reverse

/-- The recommendation in the text of a model. -/
def ofModelText (text : String) : Except Failure Recommendation :=
  match Json.ofText read text with
  | .ok r => .ok r
  | .error fault =>
    match braceSpan? text.toList with
    | none => .error (.recommendation ("failed to parse recommendation: " ++ fault.message))
    | some span =>
      match Json.readAll read span with
      | .ok r => .ok r
      | .error fault =>
        .error (.recommendation
          ("failed to extract and parse recommendation JSON: " ++ fault.message))

end ClusterWatch.Recommendation

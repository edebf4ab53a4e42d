/-
The model: where recommendations come from.

The prompt is sent as the only message of a chat.  The first choice of the reply holds the text in
which the recommendation is looked for.
-/
import ClusterWatch.Config
import ClusterWatch.Http.Network
import ClusterWatch.Prompt
import ClusterWatch.Recommendation.Extract

namespace ClusterWatch.Adviser

open Json

/-- The body of a request. -/
def chat (model prompt : String) : Json :=
  .record
    [("model", some (.string model)),
     ("messages", some (.array [.record
       [("role", some (.string "user")), ("content", some (.string prompt))]])),
     ("stream", some (.bool false))]

/-- Reads the text of a message; one without a text is empty. -/
def readMessage : Reader String :=
  readRecord [.optional "content" readText fun text _ => text] ""

def readChoice : Reader String :=
  readRecord [.needed "message" readMessage fun text _ => text] ""

def readChoices : Reader (List String) :=
  readRecord [.optional "choices" (readList readChoice) fun texts _ => texts] []

def rejection (reply : Http.Reply) : Failure :=
  let status := "model API returned status " ++ Decimal.ofNat reply.status
  match reply.decode? readValue with
  | some detail => .recommendation (status ++ ": " ++ detail.toText)
  | none => .recommendation status

def recommendationOf (reply : Http.Reply) : Except Failure Recommendation :=
  if reply.isSuccess then
    match reply.decode? readChoices with
    | some (text :: _) => Recommendation.ofModelText text
    | some [] => .error (.recommendation "model response has no choices")
    | none => .error (.http .undecodable)
  else .error (rejection reply)

/-- Asks the model about a usage, for a summary in a style. -/
def recommend (endpoint : ModelEndpoint) (usage : UsageByNamespace) (style : String)
    (net : Http.Network) : Except Failure Recommendation × Http.Network :=
  let body := chat endpoint.model (Prompt.build usage style)
  match Http.Request.send (Http.Request.build .post endpoint.url endpoint.key (some body)) net with
  | (.ok reply, net) => (recommendationOf reply, net)
  | (.error fault, net) => (.error (.http fault), net)

end ClusterWatch.Adviser

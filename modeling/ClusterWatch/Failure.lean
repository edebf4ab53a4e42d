/-
Failures of the service and their wording.

Each constructor is one cause.  The failures of a collaborator (the exporter, the model, the chat
service, the connection to any of them) are told apart from the service's own.
-/
import ClusterWatch.Json.Printer
import ClusterWatch.Json.Reader

namespace ClusterWatch

/-- Why a request got no usable answer.  A URL is named only where the request's address is no
secret. -/
inductive RequestFault where
  | unbuildable (url : Option String)
  | unsent (url : Option String)
  | undecodable
deriving DecidableEq, Repr

namespace RequestFault

/-- The mention of an address at the end of a message. -/
def mention : Option String → String
  | some url => " for url (" ++ url ++ ")"
  | none => ""

def message : RequestFault → String
  | unbuildable url => "builder error" ++ mention url
  | unsent url => "error sending request" ++ mention url
  | undecodable => "error decoding response body"

end RequestFault

def Json.Fault.message : Json.Fault → String
  | .malformed => "malformed text"
  | .mismatch => "value of another kind"

inductive Failure where
  | http (fault : RequestFault)
  | serialization (fault : Json.Fault)
  | collector (reason : String)
  | recommendation (reason : String)
  | transport (status : Nat) (detail : Option Json)
  | validation (reason : String)
  | configuration (reason : String)
  | io (reason : String)
  | other (reason : String)
deriving Repr

namespace Failure

/-- The wording of a rejected delivery. -/
def transportMessage (status : Nat) (detail : Option Json) : String :=
  "Telegram API error: status code " ++ Decimal.ofNat status ++
    match detail with
    | some detail => ": " ++ detail.toText
    | none => ""

def message : Failure → String
  | http fault => "HTTP request failed: " ++ fault.message
  | serialization fault => "Serialization error: " ++ fault.message
  | collector reason => "Resource collection failed: " ++ reason
  | recommendation reason => "Recommendation failed: " ++ reason
  | transport status detail => transportMessage status detail
  | validation reason => "Validation error: " ++ reason
  | configuration reason => "Configuration error: " ++ reason
  | io reason => "IO error: " ++ reason
  | other reason => reason

def kind : Failure → String
  | http _ => "Http"
  | serialization _ => "Serialization"
  | collector _ => "Collector"
  | recommendation _ => "Recommendation"
  | transport .. => "Transport"
  | validation _ => "Validation"
  | configuration _ => "Configuration"
  | io _ => "Io"
  | other _ => "Other"

/-- Whether the failure came from a collaborator. -/
def isUpstream : Failure → Bool
  | http _ => true
  | collector _ => true
  | recommendation _ => true
  | transport .. => true
  | _ => false

end Failure
end ClusterWatch

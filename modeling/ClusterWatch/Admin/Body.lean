/-
Values in the bodies of requests.

A body counts only if the request declares it as JSON text and it is not too long.  Its faults are
looked for in this order: the declared type, the length, the text.
-/
import ClusterWatch.Admin.Message
import ClusterWatch.Http.MediaType
import ClusterWatch.Json.Bytes

namespace ClusterWatch.Admin

/-- Why the body of a request is refused. -/
inductive BodyFault where
  | undeclared
  | tooLong
  | unreadable (fault : Json.Fault)
deriving DecidableEq, Repr

namespace BodyFault

def status : BodyFault → Nat
  | undeclared => 415
  | tooLong => 413
  | unreadable .malformed => 400
  | unreadable .mismatch => 422

def message : BodyFault → String
  | undeclared => "Expected request with \x60Content-Type: application/json\x60"
  | tooLong => "Failed to buffer the request body: length limit exceeded"
  | unreadable .malformed =>
      "Failed to parse the request body as JSON: " ++ Json.Fault.malformed.message
  | unreadable .mismatch =>
      "Failed to deserialize the JSON body into the target type: " ++ Json.Fault.mismatch.message

end BodyFault

namespace Request

def declaresJson (r : Request) : Bool :=
  ((r.header? "content-type").bind fun value => Http.MediaType.read? value.toList).any
    Http.MediaType.isJson

/-- Reads the value in the body of a request, of at most so many bytes. -/
def readBody {α : Type} (limit : Nat) (read : Json.Reader α) (r : Request) : Except BodyFault α :=
  if !r.declaresJson then .error .undeclared
  else if limit < r.body.length then .error .tooLong
  else (Json.readBytes read r.body).mapError .unreadable

end Request
end ClusterWatch.Admin

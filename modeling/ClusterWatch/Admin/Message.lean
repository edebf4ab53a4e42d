/-
Messages of the admin interface.
-/
import ClusterWatch.Admin.Problem
import ClusterWatch.Http.Header
import ClusterWatch.Http.Target

namespace ClusterWatch.Admin

structure Request where
  method : String
  target : Http.Target
  headers : List (String × String) := []
  body : List UInt8 := []
deriving DecidableEq, Repr

namespace Request

/-- The request with given parts, if they are what a message may hold. -/
def ofParts? (method target : String) (headers : List (String × String)) (body : List UInt8) :
    Option Request :=
  if Http.isToken method && headers.all fun h => Http.isToken h.1 && Http.isHeaderText h.2 then
    (Http.Target.ofText? target).map fun target => { method, target, headers, body }
  else none

/-- The first value of a header; the case of its name does not count. -/
def header? (r : Request) (name : String) : Option String :=
  (r.headers.find? fun h => Text.sameIgnoringCase h.1 name).map Prod.snd

end Request

/-- The content of a response. -/
inductive Content where
  | empty
  | text (s : String)
  | json (j : Json)
deriving Repr

namespace Content

/-- The media type that a content is sent as. -/
def mediaType? : Content → Option String
  | empty => none
  | text _ => some "text/plain; charset=utf-8"
  | json _ => some "application/json"

end Content

/-- A response: its status, what it holds, the other headers, and whether the content is left out,
as in the answer to a request for the headers alone. -/
structure Response where
  status : Nat
  content : Content
  headers : List (String × String) := []
  headersOnly : Bool := false
deriving Repr

namespace Response

def json (status : Nat) (j : Json) : Response := { status, content := .json j }

def text (status : Nat) (s : String) : Response := { status, content := .text s }

def empty (status : Nat) : Response := { status, content := .empty }

def ofProblem (p : Problem) : Response := json p.status p.toJson

def isSuccess (r : Response) : Bool := 200 ≤ r.status && r.status ≤ 299

def allHeaders (r : Response) : List (String × String) :=
  (r.content.mediaType?.map fun m => ("content-type", m)).toList ++ r.headers

def body (r : Response) : Content := if r.headersOnly then .empty else r.content

end Response
end ClusterWatch.Admin

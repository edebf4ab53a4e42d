/-
Requests to collaborators and the replies to them.

The far side is a script: replies are given out in order, one for each request that arrives, and a
script that is used up answers with an error status.  A far side that cannot be reached sees no
request at all.
-/
import ClusterWatch.Failure
import ClusterWatch.Http.Header
import ClusterWatch.Http.Url
import ClusterWatch.Json.Bytes
import ClusterWatch.Text.Base64

namespace ClusterWatch.Http

inductive Method where
  | get
  | post
deriving DecidableEq, Repr

def Method.name : Method → String
  | get => "GET"
  | post => "POST"

/-- How the service names itself. -/
def userAgent : String := "kubedeck/0.1.0"

structure Request where
  method : Method
  url : Url
  authorization : List String
  body : Option Json
deriving Repr

structure Reply where
  status : Nat
  body : List UInt8
deriving DecidableEq, Repr

namespace Reply

def isSuccess (r : Reply) : Bool := 200 ≤ r.status && r.status ≤ 299

def decode? {α : Type} (read : Json.Reader α) (r : Reply) : Option α :=
  (Json.readBytes read r.body).toOption

/-- The reply as it arrives: some statuses come without a body. -/
def arriving (r : Reply) : Reply :=
  if r.status = 204 ∨ r.status = 304 then { r with body := [] } else r

end Reply

/-- The far side of all requests. -/
structure Network where
  replies : List Reply
  reachable : Bool
  requests : List Request
deriving Repr

namespace Network

/-- The reply of a script that is used up. -/
def exhausted : Reply := ⟨500, []⟩

/-- Sends a request; a far side that cannot be reached gives no reply. -/
def exchange (request : Request) (net : Network) : Option Reply × Network :=
  if net.reachable then
    ((net.replies.head?.getD exhausted).arriving,
      { net with replies := net.replies.drop 1, requests := net.requests ++ [request] })
  else (none, net)

end Network

namespace Request

/-- The user name and password of a URL, if there is anything of the two.  A password that is no
text counts as none; a user name that is no text is not looked at. -/
def credentials? (url : Url) : Option (List Char × List Char) := do
  let plain? (cs : List Char) := Text.Percent.ofUtf8? (Text.Percent.decode cs)
  let user ← plain? url.user
  let password := url.password.bind plain?
  if user.isEmpty && password.isNone then none else some (user, password.getD [])

/-- The authorization that a user name and password ask for. -/
def basicAuthorization (credentials : List Char × List Char) : String :=
  let pair := credentials.1 ++ ':' :: credentials.2
  String.ofList ("Basic ".toList ++ Text.Base64.encode (pair.flatMap String.utf8EncodeChar))

/-- The most characters that the URL of a request may have. -/
def longestUrl : Nat := 65534

/-- Whether a request can be sent to a URL. -/
def isSendable (url : Url) : Bool :=
  let host := (url.host.map Host.toList).getD []
  url.isWeb && url.toList.length ≤ longestUrl &&
    !host.any fun c => ['"', '\x60', '\x7b', '\x7d'].contains c

/-- Builds a request.  A user name and password in the URL move into a header. -/
def build (method : Method) (address : String) (key : Option String) (body : Option Json) :
    Except RequestFault Request :=
  match Url.ofText address with
  | .error _ => .error (.unbuildable none)
  | .ok url =>
      let credentials := credentials? url
      let bare := if credentials.isSome then { url with user := [], password := none } else url
      if !url.hasHost then .error (.unbuildable (some url.toText))
      else if !key.all isHeaderText then .error (.unbuildable none)
      else if !isSendable bare then .error (.unbuildable (some bare.toText))
      else
        .ok {
          method, url := bare, body
          authorization := (credentials.map basicAuthorization).toList ++
            (key.map fun key => headerValue ("Bearer " ++ key)).toList }

def send (request : Except RequestFault Request) (net : Network) :
    Except RequestFault Reply × Network :=
  match request with
  | .error fault => (.error fault, net)
  | .ok request =>
    match net.exchange request with
    | (some reply, net) => (.ok reply, net)
    | (none, net) => (.error (.unsent (some request.url.toText)), net)

end Request
end ClusterWatch.Http

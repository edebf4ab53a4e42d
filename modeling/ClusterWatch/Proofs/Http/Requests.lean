/-
# Requests that are sent

A request can be built for an address if the address is a URL of the web, its key may be the value
of a header, and the URL fits into the head of a request (`Url.fits`).  The last of these is not
among the rules of URLs.  A URL of the web may have braces in its host, and it may be of any length,
so a URL may be in order and no request go out for it.

A far side that can be reached gets each request that is built, and answers it with the reply that
is next in its script.
-/
import ClusterWatch.Http.Network
import ClusterWatch.Proofs.Json.Scalars

namespace ClusterWatch.Http

open Json (exists_of_bind_eq_ok)

/-! ## Hosts of URLs of the web -/

namespace Host

theorem readBracketed?_ne_empty {cs : List Char} : readBracketed? cs ≠ some (.ok (.domain [])) := by
  unfold readBracketed?
  split
  · split
    · split <;> simp
    · simp
  · simp

theorem read_ne_empty {cs : List Char} : read cs ≠ .ok (.domain []) := by
  unfold read
  split
  · rename_i result bracketed
    rintro rfl
    exact readBracketed?_ne_empty bracketed
  · split
    · simp
    · simp
    · rename_i name hsome _
      split
      · split <;> simp
      · simp only [ne_eq, Except.ok.injEq, domain.injEq]
        exact hsome

end Host

namespace Url

variable {kind : SchemeKind} {url url' : Url}

theorem scheme_withPath (cs : List Char) : (withPath kind url cs).scheme = url.scheme := by
  unfold withPath
  dsimp only
  split <;> rfl

theorem scheme_readRest (cs : List Char) : (readRest kind url cs).scheme = url.scheme := by
  unfold readRest readTail
  dsimp only
  split
  · split
    · rfl
    · exact scheme_withPath _
  · exact scheme_withPath _

theorem host_readRest (cs : List Char) (web : kind ≠ .file) :
    (readRest kind url cs).host = url.host := by
  have hwithPath (cs : List Char) : (withPath kind url cs).host = url.host := by
    unfold withPath
    dsimp only
    rw [if_neg web]
  unfold readRest readTail
  dsimp only
  split
  · split
    · rfl
    · exact hwithPath _
  · exact hwithPath _

theorem of_check {α : Type} {p : Prop} [Decidable p] {fault : UrlFault} {rest : Except UrlFault α}
    {a : α} (h : (if p then throw fault >>= fun _ : Unit => rest else rest) = .ok a) :
    rest = .ok a := by
  split at h
  · cases h
  · exact h

theorem readAuthority_eq_ok {authority rest : List Char} {final : Bool}
    (h : readAuthority kind url authority final = .ok (url', rest)) :
    url'.scheme = url.scheme ∧
      (kind ≠ .other → ∃ text host, Host.read text = .ok host ∧ url'.host = some host) := by
  unfold readAuthority at h
  dsimp only at h
  replace h := of_check (of_check h)
  split at h
  · rename_i other
    obtain ⟨host, -, h⟩ := exists_of_bind_eq_ok h
    obtain ⟨port, -, h⟩ := exists_of_bind_eq_ok (of_check h)
    cases of_check h
    exact ⟨rfl, fun special => absurd other special⟩
  · obtain ⟨host, read, h⟩ := exists_of_bind_eq_ok h
    obtain ⟨port, -, h⟩ := exists_of_bind_eq_ok (of_check h)
    cases of_check h
    exact ⟨rfl, fun _ => ⟨_, host, read, rfl⟩⟩

theorem readHierarchy_eq_ok {cs : List Char} (h : readHierarchy kind url cs = .ok url') :
    url'.scheme = url.scheme ∧ (kind = .special → url'.hasHost = true) := by
  obtain ⟨⟨url₁, leftover⟩, authority, h⟩ := exists_of_bind_eq_ok h
  cases h
  obtain ⟨scheme, host⟩ := readAuthority_eq_ok authority
  refine ⟨(scheme_readRest _).trans scheme, ?_⟩
  rintro rfl
  obtain ⟨text, host, read, same⟩ := host (by decide)
  have hsome : host ≠ .domain [] := fun hnone => Host.read_ne_empty (hnone ▸ read)
  have web : SchemeKind.special ≠ .file := by decide
  rw [hasHost, host_readRest _ web, same]
  simpa using hsome

theorem scheme_readFileHost {cs : List Char} (h : readFileHost url cs = .ok url') :
    url'.scheme = url.scheme := by
  unfold readFileHost at h
  dsimp only at h
  split at h
  · cases h
    exact scheme_readRest _
  split at h
  · cases h
    exact scheme_readRest _
  obtain ⟨host, -, h⟩ := exists_of_bind_eq_ok h
  split at h
  · cases h
    exact scheme_readRest _
  · cases h
    exact scheme_readRest _

theorem scheme_readFile {cs : List Char} (h : readFile url cs = .ok url') :
    url'.scheme = url.scheme := by
  unfold readFile at h
  split at h
  · split at h
    · exact scheme_readFileHost h
    · cases h
      exact scheme_readRest _
  · cases h
    exact scheme_readRest _

theorem scheme_readOther {cs : List Char} (h : readOther url cs = .ok url') :
    url'.scheme = url.scheme := by
  unfold readOther at h
  split at h
  · exact (readHierarchy_eq_ok h).1
  · cases h
    exact scheme_readRest _
  · cases h
    rfl

theorem kindOf_of_isWeb (web : url.isWeb = true) : kindOf url.scheme = .special := by
  simp only [isWeb, Bool.or_eq_true, beq_iff_eq] at web
  rcases web with same | same <;> rw [same] <;> decide

theorem hasHost_of_isWeb {s : String} (h : ofText s = .ok url) (web : url.isWeb = true) :
    url.hasHost = true := by
  have special := kindOf_of_isWeb web
  unfold ofText read at h
  split at h
  · cases h
  · rename_i scheme r _
    split at h
    · exact (readHierarchy_eq_ok h).2 rfl
    · rename_i file
      rw [scheme_readFile h] at special
      cases special.symm.trans file
    · rename_i other
      rw [scheme_readOther h] at special
      cases special.symm.trans other

/-- A URL without user name and password, as it is sent. -/
def bare (url : Url) : Url :=
  if (Request.credentials? url).isSome then { url with user := [], password := none } else url

/-- Whether a URL fits into the head of a request. -/
def fits (url : Url) : Bool :=
  url.toList.length ≤ Request.longestUrl &&
    !((url.host.map Host.toList).getD []).any fun c => ['"', '\x60', '\x7b', '\x7d'].contains c

theorem isWeb_bare (url : Url) : url.bare.isWeb = url.isWeb := by
  unfold bare
  split <;> rfl

end Url

/-! ## Building and sending -/

namespace Request

variable {method : Method} {address : String} {key : Option String} {body : Option Json}
  {request : Request}

/-- A request asks for something at an address, with a body. -/
structure Asks (request : Request) (method : Method) (address : String) (body : Option Json) :
    Prop where
  method : request.method = method
  target : ∃ url, Url.ofText address = .ok url ∧ request.url = url.bare
  body : request.body = body

/-- What is asked of a URL, in the order in which it is asked. -/
theorem build_of_url {url : Url} (read : Url.ofText address = .ok url) :
    build method address key body =
      if !url.hasHost then .error (.unbuildable (some url.toText))
      else if !key.all isHeaderText then .error (.unbuildable none)
      else if !isSendable url.bare then .error (.unbuildable (some url.bare.toText))
      else .ok {
        method, url := url.bare, body
        authorization := ((credentials? url).map basicAuthorization).toList ++
          (key.map fun key => headerValue ("Bearer " ++ key)).toList } := by
  unfold build
  rw [read]
  rfl

theorem exists_build {url : Url} (read : Url.ofText address = .ok url) (web : url.isWeb = true)
    (legal : key.all isHeaderText = true) (fits : url.bare.fits = true) (method : Method)
    (body : Option Json) :
    ∃ request, build method address key body = .ok request ∧ request.Asks method address body := by
  have host := Url.hasHost_of_isWeb read web
  have sendable : isSendable url.bare = true := by
    rw [isSendable, Url.isWeb_bare, web, Bool.true_and]
    exact fits
  rw [build_of_url read, host, legal, sendable]
  exact ⟨_, rfl, rfl, ⟨url, read, rfl⟩, rfl⟩

end Request

def nextReply (replies : List Reply) : Reply := (replies.head?.getD Network.exhausted).arriving

namespace Network

/-- The far side after requests, each of which has taken a reply. -/
def after (net : Network) (requests : List Request) : Network :=
  { net with
    replies := net.replies.drop requests.length
    requests := net.requests ++ requests }

theorem after_nil (net : Network) : net.after [] = net := by simp [after]

theorem after_after (net : Network) (first more : List Request) :
    (net.after first).after more = net.after (first ++ more) := by
  simp [after]

theorem send_of_reachable {net : Network} (reachable : net.reachable = true) (request : Request) :
    Request.send (.ok request) net = (.ok (nextReply net.replies), net.after [request]) := by
  simp [Request.send, exchange, reachable, nextReply, after]

end Network
end ClusterWatch.Http

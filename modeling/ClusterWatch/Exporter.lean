/-
The exporter: where usage is collected.

One request gets the samples of all pods.
-/
import ClusterWatch.Http.Network
import ClusterWatch.PodSample

namespace ClusterWatch.Exporter

/-- The usage in a reply. -/
def usageOf (reply : Http.Reply) : Except Failure UsageByNamespace :=
  if reply.isSuccess then
    match reply.decode? PodSample.readAll with
    | some samples => .ok (PodSample.aggregate samples)
    | none => .error (.http .undecodable)
  else .error (.collector ("exporter returned status " ++ Decimal.ofNat reply.status))

def collect (address : String) (net : Http.Network) :
    Except Failure UsageByNamespace × Http.Network :=
  match Http.Request.send (Http.Request.build .get address none none) net with
  | (.ok reply, net) => (usageOf reply, net)
  | (.error fault, net) => (.error (.http fault), net)

end ClusterWatch.Exporter

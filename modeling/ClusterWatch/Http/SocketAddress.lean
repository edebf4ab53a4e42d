/-
Addresses to listen at.

An address is a host and, behind a colon, a port.  The host is four decimal bytes with dots between
them, none with a leading zero, or an IPv6 address in square brackets, perhaps with the number of a
zone behind a percent sign.
-/
import ClusterWatch.Http.Host

namespace ClusterWatch.Http

structure SocketAddress where
  host : Host
  zone : Option Nat
  port : Nat
deriving DecidableEq, Repr

namespace SocketAddress

/-- The two sides of the last separator, if there is one. -/
def cutAtLast? (separator : Char) (cs : List Char) : Option (List Char × List Char) :=
  (Text.cutAt? separator cs.reverse).map fun (back, front) => (front.reverse, back.reverse)

/-- Reads an IPv6 address with or without a zone. -/
def readZoned? (cs : List Char) : Option (Host × Option Nat) :=
  match Text.cutAt? '%' cs with
  | none => (Host.readIpv6? cs).map fun groups => (.ipv6 groups, none)
  | some (address, zone) => do
      let groups ← Host.readIpv6? address
      let zone ← (Decimal.readDigits? zone).filter (· ≤ Decimal.maxU32)
      return (.ipv6 groups, some zone)

def readHost? (cs : List Char) : Option (Host × Option Nat) :=
  match cs with
  | '[' :: r => if r.getLast? = some ']' then readZoned? r.dropLast else none
  | cs =>
    match Host.readBytes? cs with
    | some [high, low] => some (.ipv4 (high * 65536 + low), none)
    | _ => none

def ofText? (s : String) : Option SocketAddress := do
  let (host, port) ← cutAtLast? ':' s.toList
  let (host, zone) ← readHost? host
  let port ← (Decimal.readDigits? port).filter (· ≤ Decimal.maxU16)
  return ⟨host, zone, port⟩

end SocketAddress
end ClusterWatch.Http

/-
What became of one message: who got it, and for whom it failed.

Recipients are served one after the other.  A failure for one of them is noted and does not stop the
others.
-/
import ClusterWatch.Failure

namespace ClusterWatch

structure FailedDelivery where
  recipient : Int
  error : String
deriving DecidableEq, Repr

/-- The outcome of one message for each of its recipients. -/
structure Delivery where
  delivered : List Int := []
  failed : List FailedDelivery := []
deriving DecidableEq, Repr, Inhabited

namespace Delivery

def add (d : Delivery) (recipient : Int) : Except Failure Unit → Delivery
  | .ok _ => { d with delivered := d.delivered ++ [recipient] }
  | .error failure => { d with failed := d.failed ++ [⟨recipient, failure.message⟩] }

def attempted (d : Delivery) : Nat := d.delivered.length + d.failed.length

/-- Whether nobody was left out. -/
def isComplete (d : Delivery) : Bool := d.failed.isEmpty

def toJson (d : Delivery) : Json :=
  .record
    [("delivered", some (Json.list .integer d.delivered)),
     ("failed", some (Json.list (fun f => .record
       [("recipient", some (.integer f.recipient)), ("error", some (.string f.error))]) d.failed))]

end Delivery
end ClusterWatch

/-
Problems that the admin interface reports.

A problem has a status, a code for programs, a message for people, and details if the failure
behind it has any.  Failures of collaborators are reported as a bad gateway with their wording;
the service's own failures, apart from requests that do not hold up, are reported without it.
-/
import ClusterWatch.Failure

namespace ClusterWatch.Admin

structure Problem where
  status : Nat
  code : String
  message : String
  details : Option Json := none
deriving Repr

namespace Problem

def badRequest (message : String) : Problem := { status := 400, code := "BAD_REQUEST", message }

def internal (message : String) : Problem := { status := 500, code := "INTERNAL_ERROR", message }

def badGateway (message : String) : Problem := { status := 502, code := "UPSTREAM_ERROR", message }

def ofFailure : Failure → Problem
  | .validation reason => badRequest reason
  | .transport status detail =>
      { badGateway (Failure.transport status none).message with details := detail }
  | failure =>
      if failure.isUpstream then badGateway failure.message
      else internal "An unexpected error occurred"

def toJson (p : Problem) : Json :=
  .record
    [("code", some (.string p.code)),
     ("message", some (.string p.message)),
     ("details", p.details)]

end Problem
end ClusterWatch.Admin

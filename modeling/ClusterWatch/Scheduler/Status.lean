/-
What the scheduler tells about itself.
-/
import ClusterWatch.Calendar
import ClusterWatch.Check
import ClusterWatch.Json.Value

namespace ClusterWatch

/-- The states of the scheduler's life. -/
inductive Lifecycle where
  | stopped
  | launching
  | running
  | terminated
deriving DecidableEq, Repr

def Lifecycle.name : Lifecycle → String
  | stopped => "stopped"
  | launching => "launching"
  | running => "running"
  | terminated => "terminated"

/-- A recorded check: when it was recorded, and the name of its outcome or the wording of its
failure. -/
structure CheckRecord where
  time : Instant
  outcome : Except String String
deriving Repr

namespace CheckRecord

def ofResult (time : Instant) : Except Failure Check.Result → CheckRecord
  | .ok result => ⟨time, .ok ((result.outcome.map Check.Outcome.label).getD "")⟩
  | .error failure => ⟨time, .error failure.message⟩

end CheckRecord

/-- The state of the scheduler, how often it was launched, how many checks it has recorded, and the
last of them. -/
structure Status where
  lifecycle : Lifecycle := .stopped
  launches : Nat := 0
  checks : Nat := 0
  last : Option CheckRecord := none
deriving Repr

namespace Status

/-- The status after one more recorded check. -/
def record (s : Status) (r : CheckRecord) : Status :=
  { s with checks := s.checks + 1, last := some r }

/-- The name of the outcome of the last check, if it did not fail. -/
def lastOutcome (s : Status) : Option String := s.last.bind fun r => r.outcome.toOption

/-- The wording of the failure of the last check, if it failed. -/
def lastError (s : Status) : Option String :=
  s.last.bind fun r => match r.outcome with
    | .ok _ => none
    | .error message => some message

/-- The status as clients see it, with the settings and the number of logged announcements. -/
def toJson (s : Status) (store : Store) (log : AnnouncementLog) : Json :=
  .record
    [("state", some (.string s.lifecycle.name)),
     ("launches", some (.nat s.launches)),
     ("generation", some (.nat store.restarts)),
     ("cycles", some (.nat s.checks)),
     ("checkIntervalSecs", some (.nat (store.settings.interval / 1000))),
     ("lastCycleAt", some (Json.orNull (s.last.map fun r => .string r.time.toInternetText))),
     ("lastOutcome", some (Json.orNull (s.lastOutcome.map .string))),
     ("lastError", some (Json.orNull (s.lastError.map .string))),
     ("trackedAlerts", some (.nat log.size))]

end Status
end ClusterWatch

/-
How long log files are kept.

The log is written to one file a day, named after the date.  Once in a day the files of days more
than a week ago are deleted.  A name counts if a date can be read behind its beginning, however
the date is spelled; directories and files of any other name stay.  A file that cannot be deleted
stays and does not stop the others.
-/
import ClusterWatch.Calendar
import ClusterWatch.Settings
import ClusterWatch.Text.Pieces

namespace ClusterWatch.LogRetention

structure Entry where
  name : String
  isFile : Bool
deriving DecidableEq, Repr

/-- How every log file is called, apart from its date. -/
def baseName : String := "kubedeck.log"

/-- The name of the log file of a day. -/
def fileName (d : Date) : String := baseName ++ "." ++ String.ofList d.toList

def daysKept : Int := 7

/-- The time between two clean-ups, and before the first. -/
def period : Millis := seconds (24 * 60 * 60)

/-- The date that a name tells, if it is the name of a log file. -/
def dateOf? (name : String) : Option Date :=
  (Text.dropLeading? (baseName.toList ++ ['.']) name.toList).bind Date.read?

/-- Whether an entry is a log file of a day that is too long ago. -/
def isExpired (today : Date) (e : Entry) : Bool :=
  e.isFile && (dateOf? e.name).any fun d => d.dayNumber < today.dayNumber - daysKept

/-- What a clean-up leaves of a directory, where `deletes` says which files can be deleted. -/
def prune (deletes : String → Bool) (today : Date) (entries : List Entry) : List Entry :=
  entries.filter fun e => !(isExpired today e && deletes e.name)

/-- What is left of a directory some time after the service began, all on one date. -/
def after (elapsed : Millis) (today : Date) (entries : List Entry) : List Entry :=
  Nat.repeat (prune (fun _ => true) today) (elapsed / period) entries

end ClusterWatch.LogRetention

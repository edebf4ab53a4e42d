/-
Scripted collaborators.

A script says for each collaborator how long a call takes and what comes of it.  What comes of a
call is settled when the call begins.
-/
import ClusterWatch.Check

namespace ClusterWatch.Rehearsal

/-- How calls of a collaborator go: how long they take, whether they fail in a way that takes the
check with them, and otherwise what they answer. -/
structure Behaviour (α : Type) where
  latency : Millis := 0
  collapses : Bool := false
  result : α

structure Script where
  collector : Behaviour (Except Failure UsageByNamespace)
  model : Behaviour (Except Failure Recommendation)
  channel : Behaviour (Int → Except Failure Unit)

def Behaviour.answer {α : Type} (b : Behaviour α) (answer : α → Check.Answer) : Check.Answer :=
  if b.collapses then .collapse else answer b.result

/-- How long a call takes, and its answer. -/
def Script.reply (s : Script) : Check.Call → Millis × Check.Answer
  | .collect => (s.collector.latency, s.collector.answer .usage)
  | .recommend .. => (s.model.latency, s.model.answer .recommendation)
  | .send recipient .. =>
      (s.channel.latency, s.channel.answer fun result => .sent (result recipient))

end ClusterWatch.Rehearsal

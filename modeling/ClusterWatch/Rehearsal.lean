/-
Rehearsals of the service.

A rehearsal runs the service against scripted collaborators on a clock that moves only when it is
told to.  While time passes, everything that is due happens at its instant: first the answers that
have arrived, then the tasks, then the supervisor, until nothing is left to do.  Where a task or the
supervisor may look at the shutdown or at its work first, it looks at the shutdown.  The time by
which announcements are logged and reports are dated stands still.

A rehearsed check or request that asks for a check goes through the same states as a check of the
scheduler; the scheduler goes on while it waits.

The scheduler may be started again while it runs.  Then there are several runs side by side, each
with a supervisor, tasks and a shutdown of its own, over the same settings, status and log.  Only
the latest run can still be shut down.  What is due at the same instant happens by turns, in the
earlier run first.
-/
import ClusterWatch.Admin.Service
import ClusterWatch.Rehearsal.Script

namespace ClusterWatch

open Scheduler

namespace Rehearsal

/-- An answer on its way to a task. -/
structure Arrival where
  task : TaskId
  due : Millis
  answer : Check.Answer

/-- What belongs to one run of the scheduler alone. -/
structure Run where
  supervisor : Supervisor
  tasks : List Task
  shutdown : Bool

def Run.ofSystem (s : System) : Run := ⟨s.supervisor, s.tasks, s.shutdown⟩

def Run.inSystem (run : Run) (s : System) : System :=
  { s with supervisor := run.supervisor, tasks := run.tasks, shutdown := run.shutdown }

end Rehearsal

/-- A rehearsal: the service, the script, the runs of the scheduler before the latest, the answers
on their way, the time of announcements, and the calls that have been made and not been looked at,
the last one first. -/
structure Rehearsal where
  service : Admin.Service
  script : Rehearsal.Script
  earlier : List Rehearsal.Run := []
  arrivals : List Rehearsal.Arrival := []
  clock : Instant
  latest : List Check.Call := []

namespace Rehearsal

def system (r : Rehearsal) : System := r.service.system

def withSystem (r : Rehearsal) (system : System) : Rehearsal :=
  { r with service := { r.service with system } }

def withTime (r : Rehearsal) (now : Millis) : Rehearsal := r.withSystem { r.system with now }

/-- The rehearsal without answers on their way to a task. -/
def forget (r : Rehearsal) (task : TaskId) : Rehearsal :=
  { r with arrivals := r.arrivals.filter fun a => a.task != task }

/-- The rehearsal with an earlier run and the latest one in each other's place. -/
def exchange (r : Rehearsal) (i : Nat) : Rehearsal :=
  match r.earlier[i]? with
  | some run =>
      { r.withSystem (run.inSystem r.system) with
        earlier := r.earlier.set i (Run.ofSystem r.system) }
  | none => r

def tasks (r : Rehearsal) : List Task := r.earlier.flatMap Run.tasks ++ r.system.tasks

/-! ## The scheduler -/

/-- Takes note of what a step did. -/
def note (r : Rehearsal) : Effect → Rehearsal
  | .asked task call =>
      let (latency, answer) := r.script.reply call
      { r with
        latest := call :: r.latest
        arrivals := r.arrivals ++ [⟨task, r.system.now + latency, answer⟩] }
  | .abandoned task => r.forget task
  | .collapsed task => r.forget task
  | .entered _ => r
  | .recorded _ => r
  | .swept _ => r

/-- The rehearsal after an event; an event that makes no sense changes nothing. -/
def after (r : Rehearsal) (e : Event) : Rehearsal :=
  match r.system.step e with
  | some (system, effects) => effects.foldl note (r.withSystem system)
  | none => r

/-- Starts the scheduler, beside a run that has not ended. -/
def start (r : Rehearsal) : Rehearsal :=
  match r.system.supervisor with
  | .absent | .ended => r.after (.start false)
  | _ =>
      let beginning : Run := ⟨.absent, [], false⟩
      { r.withSystem (beginning.inSystem r.system) with
        earlier := r.earlier ++ [Run.ofSystem r.system] }.after (.start false)

/-- The first answer that has arrived for a task of the latest run. -/
def arrived? (r : Rehearsal) : Option Arrival :=
  r.arrivals.find? fun a => a.due ≤ r.system.now && r.system.isLive a.task

/-- The first task that can go on without an answer. -/
def ready? (r : Rehearsal) : Option Event :=
  (r.system.tasks.map fun t => Event.resume t.id .shutdown r.clock).find? fun e =>
    (r.system.step e).isSome

/-- Hands over an answer that has arrived. -/
def deliver (r : Rehearsal) (a : Arrival) : Rehearsal :=
  (r.forget a.task).after (.answer a.task a.answer .shutdown r.clock)

/-- Hands over the answers that have arrived, up to a number of them. -/
def deliverWithin : Nat → Rehearsal → Rehearsal
  | 0, r => r
  | fuel + 1, r =>
    match r.arrived? with
    | some a => deliverWithin fuel (r.deliver a)
    | none => r

/-- The messages that a task has still to send. -/
def waitingMessages (t : Task) : Nat :=
  match t.work with
  | .check _ _ (.sending d) => d.waiting.length + 1
  | _ => 0

/-- More steps than can be due at one instant: for each run a few for each launch and check, and one
for every message. -/
def stepBound (r : Rehearsal) : Nat :=
  (r.earlier.length + 1) * (50 + 4 * r.system.store.recipients.length) +
    (r.tasks.map waitingMessages).foldl (· + ·) 0

/-- The latest run's turn: a task or the supervisor goes on until it has to wait, if any can. -/
def turn? (r : Rehearsal) : Option Rehearsal :=
  let moved := match r.arrived? with
    | some a => some (r.deliver a)
    | none =>
      match r.ready? with
      | some e => some (r.after e)
      | none =>
          if (r.system.supervise .shutdown).isSome then some (r.after (.supervise .shutdown))
          else none
  moved.map (deliverWithin r.stepBound)

/-- A round: each run has its turn, the latest last.  There is none if nothing is due. -/
def round? (r : Rehearsal) : Option Rehearsal :=
  let (moved, r) := (List.range (r.earlier.length + 1)).foldl (fun (moved, r) i =>
    match (r.exchange i).turn? with
    | some next => (true, next.exchange i)
    | none => (moved, r)) (false, r)
  if moved then some r else none

/-- Lets everything happen that is due, in a number of rounds. -/
def settleWithin : Nat → Rehearsal → Rehearsal
  | 0, r => r
  | fuel + 1, r =>
    match r.round? with
    | some r => settleWithin fuel r
    | none => r

def settle (r : Rehearsal) : Rehearsal := settleWithin r.stepBound r

/-- The calls that have been made since they were last looked at, in order. -/
def takeCalls (r : Rehearsal) : List Check.Call × Rehearsal :=
  (r.latest.reverse, { r with latest := [] })

/-! ## Time -/

def dueOf (t : Task) : Option Millis :=
  match t.work with
  | .sweep ticker => some ticker.due
  | .idle ticker _ => some ticker.due
  | _ => none

def dueOfSupervisor : Supervisor → Option Millis
  | .pausing expiry => some expiry
  | _ => none

/-- The next instant after now at which something is due. -/
def nextDue? (r : Rehearsal) : Option Millis :=
  let supervisors := r.system.supervisor :: r.earlier.map Run.supervisor
  let dues := r.arrivals.map Arrival.due ++ r.tasks.filterMap dueOf ++
    supervisors.filterMap dueOfSupervisor
  (dues.filter (r.system.now < ·)).min?

/-- Lets time pass up to an instant, in at most so many jumps. -/
def passWithin (target : Millis) : Nat → Rehearsal → Rehearsal
  | 0, r => r.withTime target
  | fuel + 1, r =>
    let r := r.settle
    match r.nextDue? with
    | some due =>
        if due ≤ target then passWithin target fuel (r.withTime due) else r.withTime target
    | none => r.withTime target

/-- Lets a span of time pass; nothing happens if it is empty. -/
def pass (r : Rehearsal) (span : Millis) : Rehearsal :=
  if span = 0 then r else passWithin (r.system.now + span) (span + 2) r

/-! ## Checks and requests -/

/-- Makes a call outside the scheduler and waits for its answer. -/
def call (r : Rehearsal) (c : Check.Call) : Check.Answer × Rehearsal :=
  let (latency, answer) := r.script.reply c
  (answer, { r with latest := c :: r.latest }.pass latency)

/-- Goes through a check from a state on, in at most so many calls.  A check that a collaborator
takes with it has no result. -/
def checkFrom (purpose : Check.Purpose) :
    Nat → Check.State → Rehearsal → Option (Except Failure Check.Result) × Rehearsal
  | _, .finished result, r => (some result, r)
  | 0, _, r => (none, r)
  | fuel + 1, state, r =>
    match state.call? with
    | none => (none, r)
    | some c =>
      let (answer, r) := r.call c
      match state.advance? purpose (r.service.context r.clock) answer with
      | none => (none, r)
      | some (state, log) =>
          checkFrom purpose fuel state { r with service := r.service.withLog log }

def check (r : Rehearsal) (purpose : Check.Purpose) :
    Option (Except Failure Check.Result) × Rehearsal :=
  checkFrom purpose (r.system.store.recipients.length + 2) .collecting r

/-- Handles a request; one that breaks off or whose check has no result has no response. -/
def handle (r : Rehearsal) (request : Admin.Request) : Option Admin.Response × Rehearsal :=
  let (reaction, service) := r.service.react request
  let r := { r with service }
  match reaction with
  | .respond response => (some (r.service.sentTo request response), r)
  | .check purpose =>
      let (result, r) := r.check purpose
      (result.map fun result =>
        r.service.sentTo request (Admin.Service.responseTo result), r)
  | .collapse => (none, r)

end Rehearsal
end ClusterWatch

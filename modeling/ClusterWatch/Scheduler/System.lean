/-
The scheduler as a system of tasks.

A supervisor launches two tasks: one makes a check at once and then one at every tick, the other
sweeps old records out of the log of announcements once in an hour.  Both watch the generation of
the settings that was current at the launch.  When it is cancelled the supervisor waits until both
tasks have ended, pauses, and launches again; when the service shuts down it waits likewise and
ends.  A cancelled generation never interrupts a check, a shutdown does.

Everything happens in steps.  A step belongs to one event: a task or the supervisor runs up to the
next point where it has to wait, an awaited answer arrives, the settings are updated, the service
shuts down, or time passes.  Where a task waits for two things at once and both have come, the
event says which one it looks at first.  A step that makes no sense in a state does not exist.
-/
import ClusterWatch.Scheduler.Status
import ClusterWatch.Scheduler.Ticker

namespace ClusterWatch.Scheduler

/-- The pause between the end of one launch and the next. -/
def restartPause : Millis := seconds 1

/-- The time between two sweeps of the log. -/
def sweepPeriod : Millis := seconds (60 * 60)

abbrev TaskId := Nat

/-- What a task does, and where it stands. -/
inductive Work where
  | freshSweep
  | sweep (ticker : Ticker)
  | freshCheck
  | idle (ticker : Ticker) (interval : Millis)
  | check (ticker : Ticker) (interval : Millis) (state : Check.State)

/-- A live task of a launch. -/
structure Task where
  id : TaskId
  generation : Generation
  work : Work

/-- Where the supervisor stands. -/
inductive Supervisor where
  | absent
  | starting
  | watching (generation : Generation) (tasks : List TaskId)
  | joining (tasks : List TaskId)
  | pausing (expiry : Millis)
  | ended
deriving DecidableEq, Repr

structure System where
  now : Millis
  store : Store
  log : AnnouncementLog
  deduplicate : Bool
  status : Status
  supervisor : Supervisor
  tasks : List Task
  nextTask : TaskId
  shutdown : Bool

/-- Which of two things that have both come is looked at first. -/
inductive Priority where
  | shutdown
  | work
deriving DecidableEq, Repr

inductive Event where
  | start (alreadyShutDown : Bool)
  | supervise (first : Priority)
  | resume (task : TaskId) (first : Priority) (clock : Instant)
  | answer (task : TaskId) (answer : Check.Answer) (first : Priority) (clock : Instant)
  | update (u : Settings.Update)
  | shutdown
  | wait (time : Millis)

/-- Something that a step does besides changing the state.  A step may enter several states of life
one after the other, of which the status after it shows the last. -/
inductive Effect where
  | entered (lifecycle : Lifecycle)
  | asked (task : TaskId) (call : Check.Call)
  | recorded (task : TaskId)
  | abandoned (task : TaskId)
  | collapsed (task : TaskId)
  | swept (records : Nat)
deriving DecidableEq, Repr

/-- The state after a step, and what the step did. -/
abbrev Outcome := System × List Effect

namespace System

def new (store : Store) (log : AnnouncementLog) (deduplicate : Bool) : System where
  now := 0
  store := store
  log := log
  deduplicate := deduplicate
  status := {}
  supervisor := .absent
  tasks := []
  nextTask := 0
  shutdown := false

def task? (s : System) (id : TaskId) : Option Task := s.tasks.find? fun t => t.id == id

def isLive (s : System) (id : TaskId) : Bool := (s.task? id).isSome

def drop (s : System) (id : TaskId) : System :=
  { s with tasks := s.tasks.filter fun t => t.id != id }

def setWork (s : System) (id : TaskId) (work : Work) : System :=
  { s with tasks := s.tasks.map fun t => if t.id = id then { t with work } else t }

/-! ## The supervisor -/

/-- The system after a launch of both tasks. -/
def launched (s : System) : System :=
  let (generation, store) := s.store.markRunning
  let sweep : Task := ⟨s.nextTask, generation, .freshSweep⟩
  let check : Task := ⟨s.nextTask + 1, generation, .freshCheck⟩
  { s with
    store
    status := { s.status with lifecycle := .running, launches := s.status.launches + 1 }
    supervisor := .watching generation [sweep.id, check.id]
    tasks := s.tasks ++ [sweep, check]
    nextTask := s.nextTask + 2 }

/-- Launches both tasks.  The scheduler is launching until they are there. -/
def launch (s : System) : Outcome := (s.launched, [.entered .launching, .entered .running])

def terminate (s : System) : Outcome :=
  ({ s with
      store := s.store.markStopped
      status := { s.status with lifecycle := .terminated }
      supervisor := .ended }, [.entered .terminated])

/-- Goes on after both tasks have ended. -/
def afterJoin (s : System) : Outcome :=
  if s.shutdown then s.terminate
  else
    ({ s with
        status := { s.status with lifecycle := .launching }
        supervisor := .pausing (s.now + restartPause) }, [.entered .launching])

/-- Lets the supervisor run up to the next point where it has to wait. -/
def supervise (s : System) (first : Priority) : Option Outcome :=
  match s.supervisor with
  | .absent => none
  | .starting => some s.launch
  | .watching generation tasks =>
      if s.shutdown ∨ s.store.isCancelled generation then
        some ({ s with supervisor := .joining tasks }, [])
      else none
  | .joining tasks =>
      match tasks with
      | [] => some s.afterJoin
      | id :: more =>
          if s.isLive id then none else some ({ s with supervisor := .joining more }, [])
  | .pausing expiry =>
      if s.shutdown ∧ (first = .shutdown ∨ s.now < expiry) then some s.terminate
      else if expiry ≤ s.now then some s.launch
      else none
  | .ended => none

/-! ## The tasks -/

/-- Begins a check unless a shutdown that came first is looked at first. -/
def beginCheck (s : System) (id : TaskId) (ticker : Ticker) (interval : Millis) (first : Priority) :
    Outcome :=
  if s.shutdown ∧ first = .shutdown then (s.drop id, [])
  else (s.setWork id (.check ticker interval .collecting), [.asked id .collect])

/-- Whether a task has to end before it does anything else. -/
def mustEnd (s : System) (t : Task) : Bool := s.shutdown || s.store.isCancelled t.generation

/-- Lets a task run up to the next point where it has to wait. -/
def resume (s : System) (t : Task) (first : Priority) (clock : Instant) : Option Outcome :=
  match t.work with
  | .freshSweep =>
      if s.mustEnd t then some (s.drop t.id, [])
      else some (s.setWork t.id (.sweep (.new s.now sweepPeriod)), [])
  | .sweep ticker =>
      if s.mustEnd t then some (s.drop t.id, [])
      else if ticker.isDue s.now then
        let (n, log) := s.log.evict clock
        some ({ s with log }.setWork t.id (.sweep (ticker.tick s.now)), [.swept n])
      else none
  | .freshCheck =>
      if s.store.isCancelled t.generation then some (s.drop t.id, [])
      else
        let interval := s.store.settings.interval
        some (s.beginCheck t.id (.new s.now interval) interval first)
  | .idle ticker interval =>
      if s.mustEnd t then some (s.drop t.id, [])
      else if ticker.isDue s.now then
        let current := s.store.settings.interval
        let ticker := if current = interval then ticker.tick s.now else .new s.now current
        some (s.beginCheck t.id ticker current first)
      else none
  | .check .. => if s.shutdown then some (s.drop t.id, [.abandoned t.id]) else none

def context (s : System) (clock : Instant) : Check.Context :=
  ⟨s.store, s.log, s.deduplicate, clock⟩

/-- Goes on with a check that has reached a state. -/
def settleCheck (s : System) (id : TaskId) (ticker : Ticker) (interval : Millis) (clock : Instant)
    (state : Check.State) : Outcome :=
  match state with
  | .finished result =>
      ({ s with status := s.status.record (.ofResult clock result) }.setWork id
        (.idle ticker interval), [.recorded id])
  | state =>
      (s.setWork id (.check ticker interval state),
        (state.call?.map (Effect.asked id)).toList)

/-- Lets the check of a task go on with an answer, unless a shutdown is looked at first. -/
def receive (s : System) (t : Task) (answer : Check.Answer) (first : Priority) (clock : Instant) :
    Option Outcome :=
  match t.work with
  | .check ticker interval state =>
      if s.shutdown ∧ first = .shutdown then some (s.drop t.id, [.abandoned t.id])
      else
        match answer with
        | .collapse => some (s.drop t.id, [.collapsed t.id])
        | answer =>
          (state.advance? .notification (s.context clock) answer).map fun (state, log) =>
            { s with log }.settleCheck t.id ticker interval clock state
  | _ => none

/-! ## Steps -/

/-- The step of an event, if it makes sense in a state. -/
def step (s : System) : Event → Option Outcome
  | .start alreadyShutDown =>
    match s.supervisor with
    | .absent | .ended => some ({ s with supervisor := .starting, shutdown := alreadyShutDown }, [])
    | _ => none
  | .supervise first => s.supervise first
  | .resume id first clock => (s.task? id).bind fun t => s.resume t first clock
  | .answer id answer first clock => (s.task? id).bind fun t => s.receive t answer first clock
  | .update u => some ({ s with store := (s.store.apply u).2 }, [])
  | .shutdown => some ({ s with shutdown := true }, [])
  | .wait time => some ({ s with now := s.now + time }, [])

/-- The state and everything that was done after a list of events. -/
def run (s : System) : List Event → Option Outcome
  | [] => some (s, [])
  | e :: es => do
      let (s, done) ← s.step e
      let (s, more) ← run s es
      return (s, done ++ more)

end System
end ClusterWatch.Scheduler

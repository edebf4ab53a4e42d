/-
The store of the live settings.

While the scheduler runs, every launch of it watches the *generation* that was current when it
started.  An update that changes a setting cancels the current generation and puts a new one in
its place in the same step, so whoever sees the cancellation also sees the new settings.
Generations are numbered in the order in which they were made.
-/
import ClusterWatch.Settings

namespace ClusterWatch

/-- A generation of the settings. -/
abbrev Generation := Nat

/-- The live settings, with the current generation and those that were cancelled. -/
structure Store where
  settings : Settings
  running : Bool
  generation : Generation
  cancelled : List Generation
  restarts : Nat
deriving DecidableEq, Repr, Inhabited

/-- What a client of the store sees of it at one moment. -/
structure Snapshot where
  token : String
  interval : Millis
  recipients : List Int
  style : String
  running : Bool
deriving DecidableEq, Repr

namespace Store

def new (initial : Settings) : Store where
  settings := initial.normalized
  running := false
  generation := 0
  cancelled := []
  restarts := 0

/-- The recipients of messages; never none. -/
def recipients (s : Store) : List Int := Settings.effectiveRecipients s.settings.recipients

def snapshot (s : Store) : Snapshot where
  token := s.settings.token
  interval := s.settings.interval
  recipients := s.recipients
  style := s.settings.style
  running := s.running

def isCancelled (s : Store) (g : Generation) : Bool := s.cancelled.contains g

/-- Marks the scheduler as running and hands out the generation to watch. -/
def markRunning (s : Store) : Generation × Store := (s.generation, { s with running := true })

def markStopped (s : Store) : Store := { s with running := false }

/-- Cancels the current generation and puts a new one in its place. -/
def nextGeneration (s : Store) : Store :=
  { s with
    generation := s.generation + 1
    cancelled := s.generation :: s.cancelled
    restarts := s.restarts + 1 }

/-- Applies an update and tells whether it changed a setting. -/
def apply (s : Store) (u : Settings.Update) : Bool × Store :=
  let settings := u.applyTo s.settings
  if settings = s.settings then (false, s)
  else
    let s' := { s with settings }
    (true, if s.running then s'.nextGeneration else s')

end Store
end ClusterWatch

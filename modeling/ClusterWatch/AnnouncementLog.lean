/-
The log of announced workloads.

A workload that has been announced stays suppressed for four hours.  The log keeps, for every
identity, the instant that was written last; records that no longer suppress anything may be
evicted.
-/
import ClusterWatch.Calendar
import ClusterWatch.SortedMap

namespace ClusterWatch

/-- When each identity was last announced. -/
structure AnnouncementLog where
  records : SortedMap Instant
deriving DecidableEq, Repr, Inhabited

namespace AnnouncementLog

/-- How long an announced workload stays suppressed, in milliseconds. -/
def window : Int := 4 * 3600 * 1000

def empty : AnnouncementLog := ⟨.empty⟩

/-- The identity of a workload of a namespace. -/
def identity (ns workload : String) : String := ns ++ "/" ++ workload

def suppresses (log : AnnouncementLog) (id : String) (now : Instant) : Bool :=
  match log.records.find? id with
  | some last => now - last < window
  | none => false

/-- The log with a record, which replaces an earlier one. -/
def record (log : AnnouncementLog) (id : String) (time : Instant) : AnnouncementLog :=
  ⟨log.records.insert id time⟩

/-- Whether an identity is to be announced now; if so, it is recorded. -/
def announce (log : AnnouncementLog) (id : String) (now : Instant) : Bool × AnnouncementLog :=
  if log.suppresses id now then (false, log) else (true, log.record id now)

/-- The log without the records that are older than the window, and how many those were. -/
def evict (log : AnnouncementLog) (now : Instant) : Nat × AnnouncementLog :=
  let kept := log.records.filter fun _ last => now - window ≤ last
  (log.records.size - kept.size, ⟨kept⟩)

def contains (log : AnnouncementLog) (id : String) : Bool := (log.records.find? id).isSome

def size (log : AnnouncementLog) : Nat := log.records.size

theorem suppresses_iff {log : AnnouncementLog} {id : String} {now : Instant} :
    log.suppresses id now = true ↔
      ∃ last, log.records.find? id = some last ∧ now - last < window := by
  unfold suppresses
  cases log.records.find? id with
  | none => simp
  | some last => simp

theorem suppresses_record_self (log : AnnouncementLog) (id : String) (time now : Instant) :
    (log.record id time).suppresses id now = decide (now - time < window) := by
  simp [suppresses, record, SortedMap.find?_insert]

theorem suppresses_record_of_ne (log : AnnouncementLog) {id other : String} (h : other ≠ id)
    (time now : Instant) :
    (log.record id time).suppresses other now = log.suppresses other now := by
  simp [suppresses, record, SortedMap.find?_insert, h]

theorem announce_fst (log : AnnouncementLog) (id : String) (now : Instant) :
    (log.announce id now).1 = !log.suppresses id now := by
  unfold announce
  split
  · next heeded => simp [heeded]
  · next unheeded => simpa using unheeded

theorem find?_announce (log : AnnouncementLog) (id other : String) (now : Instant) :
    (log.announce id now).2.records.find? other =
      if other = id ∧ (log.announce id now).1 = true then some now
      else log.records.find? other := by
  rw [announce_fst]
  unfold announce
  split
  · next heeded => simp [heeded]
  · next unheeded => simp [unheeded, record, SortedMap.find?_insert]

/-- An identity that has been asked about is suppressed, whatever the answer was. -/
theorem suppresses_announce (log : AnnouncementLog) (id other : String) (now : Instant) :
    (log.announce id now).2.suppresses other now = true ↔
      log.suppresses other now = true ∨ other = id := by
  unfold announce
  by_cases same : other = id
  · subst same
    split
    · next heeded => simp [heeded]
    · simp [suppresses_record_self, window]
  · split
    · simp [same]
    · simp [suppresses_record_of_ne _ same, same]

end AnnouncementLog
end ClusterWatch

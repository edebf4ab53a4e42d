/-
# The scheduler with other tokens

The scheduler keeps tokens in its store and in the messages of the check that is under way.  It goes
on with other tokens as it goes on with its own, step by step (`step_mapToken`), and only the
messages that it asks to be sent show the difference.
-/
import ClusterWatch.Proofs.Check.Tokens
import ClusterWatch.Scheduler.System

namespace ClusterWatch.Scheduler

variable (f : String → String)

def Work.mapToken : Work → Work
  | .check ticker interval state => .check ticker interval (state.mapToken f)
  | work => work

def Task.mapToken (t : Task) : Task := { t with work := t.work.mapToken f }

def Effect.mapToken : Effect → Effect
  | .asked task call => .asked task (call.mapToken f)
  | effect => effect

def System.mapToken (s : System) : System :=
  { s with store := s.store.mapToken f, tasks := s.tasks.map (Task.mapToken f) }

def Outcome.mapToken (o : Outcome) : Outcome := (o.1.mapToken f, o.2.map (Effect.mapToken f))

/-- The token that an event puts in the place of the stored one. -/
def Event.suppliedToken : Event → Option String
  | .update u => u.suppliedToken
  | _ => none

namespace System

variable (s : System)

/-! ## The list of tasks -/

theorem task?_mapToken (id : TaskId) :
    (s.mapToken f).task? id = (s.task? id).map (Task.mapToken f) := by
  show (s.tasks.map (Task.mapToken f)).find? _ = _
  rw [List.find?_map]
  rfl

theorem isLive_mapToken (id : TaskId) : (s.mapToken f).isLive id = s.isLive id := by
  rw [isLive, task?_mapToken, Option.isSome_map]
  rfl

theorem drop_mapToken (id : TaskId) : (s.mapToken f).drop id = (s.drop id).mapToken f := by
  have tasks : (s.tasks.map (Task.mapToken f)).filter (fun t => t.id != id) =
      (s.tasks.filter fun t => t.id != id).map (Task.mapToken f) := List.filter_map
  exact congrArg (fun tasks => { s.mapToken f with tasks }) tasks

theorem setWork_mapToken (id : TaskId) (work : Work) :
    (s.mapToken f).setWork id (work.mapToken f) = (s.setWork id work).mapToken f := by
  have each (t : Task) :
      (if (t.mapToken f).id = id then { t.mapToken f with work := work.mapToken f }
        else t.mapToken f) = (if t.id = id then { t with work } else t).mapToken f := by
    by_cases same : t.id = id
    · rw [if_pos same, if_pos (show (t.mapToken f).id = id from same)]
      rfl
    · rw [if_neg same, if_neg (show ¬(t.mapToken f).id = id from same)]
  simp only [setWork, mapToken, List.map_map]
  congr 1
  refine List.map_congr_left ?_
  intro t _
  exact each t

/-! ## The supervisor -/

theorem launched_mapToken : (s.mapToken f).launched = s.launched.mapToken f := by
  simp only [launched, mapToken, List.map_append]
  rfl

theorem launch_mapToken : (s.mapToken f).launch = Outcome.mapToken f s.launch :=
  congrArg (·, _) (s.launched_mapToken f)

theorem afterJoin_mapToken : (s.mapToken f).afterJoin = Outcome.mapToken f s.afterJoin := by
  unfold afterJoin
  show (if s.shutdown then _ else _) = _
  split <;> rfl

theorem supervise_mapToken (first : Priority) :
    (s.mapToken f).supervise first = (s.supervise first).map (Outcome.mapToken f) := by
  have supervisor : (s.mapToken f).supervisor = s.supervisor := rfl
  unfold supervise
  rw [supervisor]
  cases s.supervisor with
  | absent | ended => rfl
  | starting => exact congrArg some (s.launch_mapToken f)
  | watching generation tasks =>
      show (if s.shutdown ∨ s.store.isCancelled generation then _ else _) = _
      dsimp only
      split <;> rfl
  | joining tasks =>
      cases tasks with
      | nil => exact congrArg some (s.afterJoin_mapToken f)
      | cons id more =>
          dsimp only
          rw [isLive_mapToken]
          split <;> rfl
  | pausing expiry =>
      show (if s.shutdown ∧ (first = .shutdown ∨ s.now < expiry) then _
        else if expiry ≤ s.now then _ else _) = _
      dsimp only
      split
      · rfl
      split
      · exact congrArg some (s.launch_mapToken f)
      · rfl

/-! ## The tasks -/

theorem beginCheck_mapToken (id : TaskId) (ticker : Ticker) (interval : Millis) (first : Priority) :
    (s.mapToken f).beginCheck id ticker interval first =
      Outcome.mapToken f (s.beginCheck id ticker interval first) := by
  unfold beginCheck
  show (if s.shutdown ∧ first = .shutdown then _ else _) = _
  split
  · rw [drop_mapToken]
    rfl
  · rw [Outcome.mapToken, ← setWork_mapToken]
    rfl

theorem end_mapToken (id : TaskId) {effects : List Effect}
    (same : effects.map (Effect.mapToken f) = effects) :
    some ((s.mapToken f).drop id, effects) =
      (some (s.drop id, effects)).map (Outcome.mapToken f) := by
  rw [drop_mapToken, Option.map_some, Outcome.mapToken, same]

theorem resume_mapToken (t : Task) (first : Priority) (clock : Instant) :
    (s.mapToken f).resume (t.mapToken f) first clock =
      (s.resume t first clock).map (Outcome.mapToken f) := by
  obtain ⟨id, generation, work⟩ := t
  -- No guard looks at a token.  Shown as the guard of the system itself, it is one for both sides.
  cases work with
  | freshSweep =>
      show (if s.mustEnd ⟨id, generation, .freshSweep⟩ then _ else _) = _
      unfold resume
      dsimp only
      split
      · exact s.end_mapToken f id rfl
      · exact congrArg (fun s => some (s, []))
          (s.setWork_mapToken f id (.sweep (.new s.now sweepPeriod)))
  | sweep ticker =>
      show (if s.mustEnd ⟨id, generation, .sweep ticker⟩ then _
        else if ticker.isDue s.now then _ else _) = _
      unfold resume
      dsimp only
      split
      · exact s.end_mapToken f id rfl
      split
      · exact congrArg (fun t => some (t, [Effect.swept (s.log.evict clock).1]))
          (setWork_mapToken f { s with log := (s.log.evict clock).2 } id
            (.sweep (ticker.tick s.now)))
      · rfl
  | freshCheck =>
      show (if s.store.isCancelled generation then _ else _) = _
      unfold resume
      dsimp only
      split
      · exact s.end_mapToken f id rfl
      · exact congrArg some (s.beginCheck_mapToken f id _ s.store.settings.interval first)
  | idle ticker interval =>
      show (if s.mustEnd ⟨id, generation, .idle ticker interval⟩ then _
        else if ticker.isDue s.now then _ else _) = _
      unfold resume
      dsimp only
      split
      · exact s.end_mapToken f id rfl
      split
      · exact congrArg some (s.beginCheck_mapToken f id _ s.store.settings.interval first)
      · rfl
  | check ticker interval state =>
      show (if s.shutdown then _ else _) = _
      unfold resume
      dsimp only
      split
      · exact s.end_mapToken f id rfl
      · rfl

theorem settleCheck_mapToken (id : TaskId) (ticker : Ticker) (interval : Millis) (clock : Instant)
    (state : Check.State) :
    (s.mapToken f).settleCheck id ticker interval clock (state.mapToken f) =
      Outcome.mapToken f (s.settleCheck id ticker interval clock state) := by
  have goesOn := s.setWork_mapToken f id (.check ticker interval state)
  cases state with
  | collecting | recommending | sending => exact congrArg (·, _) goesOn
  | finished result =>
      exact congrArg (·, _) (setWork_mapToken f
        { s with status := s.status.record (.ofResult clock result) } id (.idle ticker interval))

theorem receive_mapToken (t : Task) (answer : Check.Answer) (first : Priority) (clock : Instant) :
    (s.mapToken f).receive (t.mapToken f) answer first clock =
      (s.receive t answer first clock).map (Outcome.mapToken f) := by
  obtain ⟨id, generation, work⟩ := t
  cases work with
  | freshSweep | sweep | freshCheck | idle => rfl
  | check ticker interval state =>
      show (if s.shutdown ∧ first = .shutdown then _ else _) = _
      unfold receive
      dsimp only
      split
      · exact s.end_mapToken f id rfl
      · cases answer with
        | collapse => exact s.end_mapToken f id rfl
        | usage | recommendation | sent =>
            refine Check.map_advance?_mapToken f ?_ .notification (s.context clock) state _
            intro state log
            exact settleCheck_mapToken f { s with log } id ticker interval clock state

/-! ## Steps -/

theorem step_mapToken {e : Event} (hnone : e.suppliedToken = none) :
    (s.mapToken f).step e = (s.step e).map (Outcome.mapToken f) := by
  cases e with
  | start alreadyShutDown =>
      have supervisor : (s.mapToken f).supervisor = s.supervisor := rfl
      unfold step
      rw [supervisor]
      cases s.supervisor <;> rfl
  | supervise first => exact s.supervise_mapToken f first
  | resume id first clock =>
      simp only [step, task?_mapToken]
      cases s.task? id with
      | none => rfl
      | some t => exact s.resume_mapToken f t first clock
  | answer id answer first clock =>
      simp only [step, task?_mapToken]
      cases s.task? id with
      | none => rfl
      | some t => exact s.receive_mapToken f t answer first clock
  | update u =>
      have updated := congrArg Prod.snd (Store.apply_mapToken f hnone s.store)
      exact congrArg (fun store => some ({ s.mapToken f with store }, [])) updated
  | shutdown | wait => rfl

end System
end ClusterWatch.Scheduler

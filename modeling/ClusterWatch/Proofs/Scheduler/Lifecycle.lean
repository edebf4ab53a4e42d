/-
# The life of the scheduler

    stopped  →  launching  ⇄  running
                    ↓            ↓
                       terminated

The state of life that the status shows, the mark in the store and the tasks are written at
different points of a launch and of its end.  What they have to do with each other is said by the
place where the supervisor stands (`System.Living`), and every step of a scheduler that is called
once keeps it.  A second call would find the state of life at its end and begin anew, so the number
of calls is a part of the invariant.

A launch is one step, and enters two states of life in it.  So what follows on what is said of the
states that a step has entered, and not of the status before and after it (`Transition.follows`);
the status shows the last of them (`Transition.lifecycle_eq`).  The states that a run has entered are
those of its steps, one step after the other (`follows_of_run`).
-/
import ClusterWatch.Proofs.Scheduler.History
import ClusterWatch.Proofs.Settings.Operations

namespace ClusterWatch

/-- The moves from one state of life to another. -/
inductive Lifecycle.Moves : Lifecycle → Lifecycle → Prop
  | launch : Moves .stopped .launching
  | run : Moves .launching .running
  | restart : Moves .running .launching
  | endLaunching : Moves .launching .terminated
  | endRunning : Moves .running .terminated

/-- A state of life stays, or moves on to another one. -/
def Lifecycle.Follows (l l' : Lifecycle) : Prop := l = l' ∨ l.Moves l'

namespace Scheduler

/-- The state of life that is entered, if an effect is that. -/
def Effect.entered? : Effect → Option Lifecycle
  | .entered lifecycle => some lifecycle
  | _ => none

/-- The states of life that were entered, one after the other. -/
def entered (done : List Effect) : List Lifecycle := done.filterMap Effect.entered?

theorem entered_append (done more : List Effect) :
    entered (done ++ more) = entered done ++ entered more :=
  List.filterMap_append

/-- The state of life and the mark of the store are those of the place where the supervisor
stands. -/
def System.Living (s : System) : Prop :=
  match s.supervisor with
  | .absent | .starting => s.status.lifecycle = .stopped ∧ s.store.running = false
  | .watching .. | .joining _ => s.status.lifecycle = .running ∧ s.store.running = true
  | .pausing _ => s.status.lifecycle = .launching ∧ s.store.running = true
  | .ended => s.status.lifecycle = .terminated ∧ s.store.running = false

variable {s s' : System} {e : Event} {done : List Effect}

theorem System.Living.marked_iff (living : s.Living) :
    s.store.running = true ↔ s.status.lifecycle = .running ∨ s.status.lifecycle = .launching := by
  unfold System.Living at living
  split at living <;> simp [living]

/-! ## One step -/

theorem TaskStep.lifecycle_eq {t : Task} {next : Option Work} {status : Status}
    {log : AnnouncementLog} (h : TaskStep s t e next status log done) :
    status.lifecycle = s.status.lifecycle := by
  cases h <;> rfl

theorem TaskStep.isCall_eq {t : Task} {next : Option Work} {status : Status}
    {log : AnnouncementLog} (h : TaskStep s t e next status log done) : e.isCall = false := by
  cases h with
  | abandon task => cases e <;> first | rfl | cases task
  | _ => rfl

theorem Transition.absent_iff (h : Transition s e s' done) :
    s'.supervisor = .absent ↔ s.supervisor = .absent ∧ e.isCall = false := by
  cases h with
  | call => simp [Event.isCall]
  | launch hsup => rcases hsup with h | ⟨_, h, -⟩ <;> simp [h, System.launched]
  | notice hsup | join hsup | pause hsup => simp [hsup]
  | terminate hsup => rcases hsup with h | ⟨_, h⟩ <;> simp [h, System.terminate]
  | task _ step => simp [step.isCall_eq]
  | update | shutdown | wait => simp [Event.isCall]

/-- Every step but a second call keeps the state of life in its place. -/
theorem Transition.living (h : Transition s e s' done)
    (first : e.isCall = true → s.supervisor = .absent) (living : s.Living) : s'.Living := by
  unfold System.Living at living
  cases h with
  | call =>
      rw [first rfl] at living
      exact living
  | launch => exact ⟨rfl, rfl⟩
  | notice hsup | join hsup =>
      rw [hsup] at living
      exact living
  | pause hsup =>
      rw [hsup] at living
      exact ⟨rfl, living.2⟩
  | terminate => exact ⟨rfl, rfl⟩
  | task htasks step =>
      unfold System.Living
      dsimp only
      rw [step.lifecycle_eq]
      exact living
  | update u =>
      unfold System.Living
      dsimp only
      rw [(s.store.apply_keeps u).1]
      exact living
  | shutdown | wait => exact living

theorem entered_question (id : TaskId) (state : Check.State) :
    entered (state.call?.map (Effect.asked id)).toList = [] := by
  cases state <;> rfl

theorem TaskStep.entered_eq_nil {t : Task} {next : Option Work} {status : Status}
    {log : AnnouncementLog} (h : TaskStep s t e next status log done) : entered done = [] := by
  cases h with
  | proceed => exact entered_question _ _
  | _ => rfl

/-- The states that a step enters follow one on the other, the first on the state before. -/
theorem Transition.follows (h : Transition s e s' done) (living : s.Living) :
    (s.status.lifecycle :: entered done).IsChain Lifecycle.Follows := by
  unfold System.Living at living
  cases h with
  | launch hsup =>
      have before : s.status.lifecycle.Follows .launching := by
        rcases hsup with hsup | ⟨_, hsup, -⟩
        · rw [hsup] at living
          exact Or.inr (living.1 ▸ .launch)
        · rw [hsup] at living
          exact Or.inl living.1
      exact .cons_cons before (.cons_cons (Or.inr .run) (.singleton _))
  | pause hsup =>
      rw [hsup] at living
      exact .cons_cons (Or.inr (living.1 ▸ .restart)) (.singleton _)
  | terminate hsup =>
      refine .cons_cons (Or.inr ?_) (.singleton _)
      rcases hsup with hsup | ⟨_, hsup⟩
      · rw [hsup] at living
        exact living.1 ▸ .endRunning
      · rw [hsup] at living
        exact living.1 ▸ .endLaunching
  | task _ step =>
      rw [step.entered_eq_nil]
      exact .singleton _
  | call | notice | join | update | shutdown | wait => exact .singleton _

/-- After a step the status shows the state that was entered last. -/
theorem Transition.lifecycle_eq (h : Transition s e s' done) :
    s'.status.lifecycle = (entered done).getLastD s.status.lifecycle := by
  cases h with
  | task _ step =>
      rw [step.entered_eq_nil]
      exact step.lifecycle_eq
  | _ => rfl

/-! ## One call -/

theorem getLastD_append (l : Lifecycle) (before after : List Lifecycle) :
    (before ++ after).getLastD l = after.getLastD (before.getLastD l) := by
  induction before generalizing l with
  | nil => rfl
  | cons x before ih => rw [List.cons_append, List.getLastD_cons, List.getLastD_cons, ih]

theorem follows_append {l : Lifecycle} {before after : List Lifecycle}
    (h : (l :: before).IsChain Lifecycle.Follows)
    (h' : (before.getLastD l :: after).IsChain Lifecycle.Follows) :
    (l :: (before ++ after)).IsChain Lifecycle.Follows := by
  induction before generalizing l with
  | nil => exact h'
  | cons x before ih =>
      cases h with
      | cons_cons first rest =>
          rw [List.getLastD_cons] at h'
          exact .cons_cons first (ih rest h')

section Call

variable {store : Store} {log : AnnouncementLog} {deduplicate : Bool} {es : List Event}

/-- As long as there was one call at most, the state of life is in its place. -/
theorem living_of_leads (stopped : store.running = false)
    (h : (System.new store log deduplicate).Leads es s) (once : calls es ≤ 1) :
    s.Living ∧ (s.supervisor = .absent ↔ calls es = 0) := by
  -- That the next call is the first one has to be seen from the state, hence the second half.
  refine h.induction
    (P := fun es s => calls es ≤ 1 → s.Living ∧ (s.supervisor = .absent ↔ calls es = 0))
    (orderly_new store log deduplicate) (fun _ => ⟨⟨rfl, stopped⟩, iff_of_true rfl rfl⟩) ?_ once
  intro es t e u more _ _ ht _ tr once
  rw [calls_append, calls_singleton] at once ⊢
  obtain ⟨living, absent⟩ := ht (by omega)
  have first : e.isCall = true → t.supervisor = .absent := by
    intro call
    rw [call, if_pos rfl] at once
    exact absent.mpr (by omega)
  refine ⟨tr.living first living, ?_⟩
  rw [tr.absent_iff, absent, Nat.add_eq_zero_iff]
  cases e.isCall <;> simp

/-- The states that a run enters follow one on the other, and the status shows the last of them. -/
theorem follows_of_run (stopped : store.running = false)
    (h : (System.new store log deduplicate).run es = some (s, done)) (once : calls es ≤ 1) :
    (Lifecycle.stopped :: entered done).IsChain Lifecycle.Follows ∧
      s.status.lifecycle = (entered done).getLastD .stopped := by
  refine (System.run_induction
    (P := fun es s done => calls es ≤ 1 →
      (Lifecycle.stopped :: entered done).IsChain Lifecycle.Follows ∧
        s.status.lifecycle = (entered done).getLastD .stopped)
    (orderly_new store log deduplicate) (fun _ => ⟨.singleton _, rfl⟩) ?_ h).2 once
  intro es t done e u more hrun _ ht _ tr once
  have before : calls es ≤ 1 := by
    rw [calls_append] at once
    omega
  obtain ⟨chain, shown⟩ := ht before
  have next := tr.follows (living_of_leads stopped ⟨done, hrun⟩ before).1
  rw [shown] at next
  rw [entered_append, getLastD_append, ← shown]
  exact ⟨follows_append chain next, tr.lifecycle_eq⟩

end Call

/-! ## After the end -/

/-- The scheduler has come to its end, with this status and these restarts behind it. -/
structure System.Over (status : Status) (restarts : Nat) (s : System) : Prop where
  supervisor : s.supervisor = .ended
  tasks : s.tasks = []
  unmarked : s.store.running = false
  status : s.status = status
  restarts : s.store.restarts = restarts

/-- Nothing but a call wakes a scheduler that has come to its end. -/
theorem Transition.keeps_over {status : Status} {restarts : Nat} (h : Transition s e s' done)
    (noCall : e.isCall = false) (gone : s.Over status restarts) : s'.Over status restarts := by
  have ended := gone.supervisor
  cases h with
  | call => cases noCall
  | launch hsup =>
      rcases hsup with hsup | ⟨_, hsup, -⟩
      · rw [hsup] at ended; cases ended
      · rw [hsup] at ended; cases ended
  | notice hsup | join hsup | pause hsup => rw [hsup] at ended; cases ended
  | terminate hsup =>
      rcases hsup with hsup | ⟨_, hsup⟩
      · rw [hsup] at ended; cases ended
      · rw [hsup] at ended; cases ended
  | task htasks =>
      have mem := mem_of_split htasks
      rw [gone.tasks] at mem
      cases mem
  | update u =>
      have quiet := Store.apply_of_not_signal (u := u) (Or.inr gone.unmarked)
      exact ⟨ended, gone.tasks, (s.store.apply_keeps u).1.trans gone.unmarked, gone.status,
        quiet.2.1.trans gone.restarts⟩
  | shutdown | wait => exact ⟨ended, gone.tasks, gone.unmarked, gone.status, gone.restarts⟩

theorem over_of_terminated (living : s.Living) (o : s.Orderly)
    (h : s.status.lifecycle = .terminated) : s.Over s.status s.store.restarts := by
  unfold System.Living at living
  cases hsup : s.supervisor with
  | ended =>
      rw [hsup] at living
      exact ⟨hsup, o.tasks_eq_nil (by rw [hsup]; rfl), living.2, rfl, rfl⟩
  | absent | starting | watching | joining | pausing =>
      rw [hsup, h] at living
      cases living.1

/-- Of a scheduler that is called at most once, in every state that a run leads to:

* The states of life that the run has entered follow one on the other, the first of them on
  `stopped`, and the status shows the last of them.  The same holds of each step of the run and the
  state of life before it.
* While it is running, the store is marked as running; while it is stopped, and when it has
  terminated, the store is not.
* When it has terminated no task lives, nor will one again, and neither the status nor the number of
  restarts will change. -/
theorem life_ends_for_good {initial : Settings} {log : AnnouncementLog} {deduplicate : Bool}
    {es : List Event} {s : System}
    (h : (System.new (.new initial) log deduplicate).Leads es s) (once : calls es ≤ 1) :
    (∀ done, (System.new (.new initial) log deduplicate).run es = some (s, done) →
        (Lifecycle.stopped :: entered done).IsChain Lifecycle.Follows ∧
          s.status.lifecycle = (entered done).getLastD .stopped) ∧
      (∀ p : PastStep (System.new (.new initial) log deduplicate) es s,
        (p.origin.status.lifecycle :: entered p.done).IsChain Lifecycle.Follows ∧
          p.target.status.lifecycle = (entered p.done).getLastD p.origin.status.lifecycle) ∧
      (s.status.lifecycle = .running → s.store.running = true) ∧
      (s.status.lifecycle = .stopped ∨ s.status.lifecycle = .terminated →
        s.store.running = false) ∧
      (s.status.lifecycle = .terminated → s.tasks = [] ∧
        ∀ es' s', s.Leads es' s' → calls (es ++ es') ≤ 1 →
          s'.tasks = [] ∧ s'.status = s.status ∧ s'.store.restarts = s.store.restarts) := by
  have o := orderly_new (.new initial) log deduplicate
  obtain ⟨living, absent⟩ := living_of_leads rfl h once
  refine ⟨fun done hrun => follows_of_run rfl hrun once, ?_, ?_, ?_, ?_⟩
  · intro p
    have before : calls p.before ≤ 1 := by
      have whole := congrArg calls p.events_eq
      rw [calls_append] at whole
      omega
    have tr := p.transition o
    exact ⟨tr.follows (living_of_leads rfl p.reached before).1, tr.lifecycle_eq⟩
  · intro running
    exact living.marked_iff.mpr (Or.inl running)
  · intro still
    refine Bool.eq_false_iff.mpr ?_
    intro marked
    rcases still with still | still <;> rcases living.marked_iff.mp marked with h | h <;>
      cases still.symm.trans h
  · intro terminated
    have os := h.orderly o
    have gone := over_of_terminated living os terminated
    refine ⟨gone.tasks, ?_⟩
    intro es' s' h' once'
    -- The only call lies behind: without it the supervisor would be absent.
    have noCall : calls es' = 0 := by
      have hsome : calls es ≠ 0 := by
        intro hnone
        have ended := gone.supervisor
        rw [absent.mpr hnone] at ended
        cases ended
      rw [calls_append] at once'
      omega
    have later := h'.induction
      (P := fun es' t => calls es' = 0 → t.Over s.status s.store.restarts) os (fun _ => gone)
      (by
        intro es' t e u more _ _ ht _ tr hnone
        rw [calls_append, calls_singleton] at hnone
        have quiet : e.isCall = false := by
          cases call : e.isCall
          · rfl
          · simp [call] at hnone
        exact tr.keeps_over quiet (ht (by omega)))
      noCall
    exact ⟨later.tasks, later.status, later.restarts⟩

/-- A restart, and a shutdown during its pause. -/
def endInPause : List Event := restart ++ [.shutdown, .supervise .shutdown]

/-- A call of a scheduler that is shut down already. -/
def endAtOnce : List Event :=
  [.start true, .supervise .work, .resume 0 .work 0, .resume 1 .shutdown 0, .supervise .work,
    .supervise .work, .supervise .work, .supervise .work]

/-- A scheduler that ended in a pause does not notice the update that comes too late, and one that
ends as soon as it was called has gone through a launch. -/
theorem life_ends_in_pause_and_at_once :
    (∃ s s', serviceAtRest.Leads endInPause s ∧ s.Leads [.update { style := some "late" }] s' ∧
      s.status.lifecycle = .terminated ∧ s'.store.settings.style = "late" ∧
      s'.tasks = [] ∧ s'.status = s.status ∧ s'.store.restarts = s.store.restarts) ∧
    ∃ s, serviceAtRest.Leads endAtOnce s ∧ s.status.launches = 1 ∧
      s.status.lifecycle = .terminated ∧ s.store.running = false ∧
      ∃ p : PastStep serviceAtRest endAtOnce s, p.origin.status.lifecycle = .stopped ∧
        entered p.done = [.launching, .running] ∧
        (p.origin.status.lifecycle :: entered p.done).IsChain Lifecycle.Follows := by
  constructor
  · let s : System := ((serviceAtRest.run endInPause).get rfl).1
    let s' : System := { s with store := (s.store.apply { style := some "late" }).2 }
    have run : serviceAtRest.Leads endInPause s := ⟨_, rfl⟩
    have late : s.Leads [.update { style := some "late" }] s' := ⟨_, rfl⟩
    obtain ⟨-, -, -, -, ended⟩ := life_ends_for_good run (by decide)
    obtain ⟨tasks, status, restarts⟩ := (ended rfl).2 _ _ late (by decide)
    exact ⟨s, s', run, late, rfl, rfl, tasks, status, restarts⟩
  · let s : System := ((serviceAtRest.run endAtOnce).get rfl).1
    have run : serviceAtRest.Leads endAtOnce s := ⟨_, rfl⟩
    let p : PastStep serviceAtRest endAtOnce s :=
      ⟨[.start true], .supervise .work, endAtOnce.drop 2, _, _, _, _, rfl, ⟨_, rfl⟩, rfl, rfl⟩
    obtain ⟨-, steps, -, unmarked, -⟩ := life_ends_for_good run (by decide)
    exact ⟨s, run, rfl, rfl, unmarked (Or.inr rfl), p, rfl, rfl, (steps p).1⟩

end Scheduler
end ClusterWatch

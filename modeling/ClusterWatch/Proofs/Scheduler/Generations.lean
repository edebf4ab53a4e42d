/-
# Launches follow updates

An update of the settings is never missed, and nothing else makes the scheduler launch again.

What the scheduler knows of the settings it knows through the generation that its latest launch
took.  `System.Current` says what that is worth in a state: the store is sound and marked as running
while a launch is active, the live tasks hold generations that were handed out, and a task whose
generation is not cancelled keeps the interval of the store.  An update that changes something
cancels whatever was handed out, so it has nothing to preserve but the tasks that now have to leave.

Launches are counted against restarts.  `System.launchable` tells how many launches a state has been
paid for: one by a call, and one by each generation that was cancelled while it was watched.
-/
import ClusterWatch.Proofs.Scheduler.Accounting
import ClusterWatch.Proofs.Settings.Store

namespace ClusterWatch.Scheduler

variable {s s' : System} {t : Task} {e : Event} {next : Option Work} {status : Status}
  {log : AnnouncementLog} {done : List Effect}

/-- Whether a launch is active: its tasks have not all been waited for. -/
def Supervisor.isActive : Supervisor → Bool
  | .watching .. | .joining _ => true
  | _ => false

/-- Some work that is done in an interval is done in the interval `interval`. -/
def Work.Keeps (interval : Millis) : Work → Prop
  | .idle ticker known | .check ticker known _ => known = interval ∧ ticker.period = interval
  | _ => True

/-- What a launch knows of the settings is right unless its generation is cancelled. -/
structure System.Current (s : System) : Prop where
  store : s.store.Sound
  marked : s.supervisor.isActive = true → s.store.running = true
  handed : ∀ t ∈ s.tasks, t.generation ≤ s.store.generation
  cadence : ∀ t ∈ s.tasks, s.store.isCancelled t.generation = false →
    t.work.Keeps s.store.settings.interval

theorem System.Orderly.active {s : System} (o : s.Orderly) {t : Task} (h : t ∈ s.tasks) :
    s.supervisor.isActive = true := by
  have await := o.awaited t h
  cases hsup : s.supervisor with
  | watching | joining => rfl
  | absent | starting | pausing | ended => rw [hsup] at await; cases await

/-! ## The cadence -/

/-- A bounded interval is the period of its ticker: it has at least a millisecond, the least period
of a ticker, as there is no shorter one. -/
theorem period_new (now : Millis) {interval : Millis} (h : Settings.Bounded interval) :
    (Ticker.new now interval).period = interval := by
  show max 1 (min interval Settings.longestInterval) = interval
  rw [Nat.min_eq_left h.2, Nat.max_eq_right h.1]

theorem TaskStep.keeps {work : Work} (h : TaskStep s t e (some work) status log done)
    (bounded : Settings.Bounded s.store.settings.interval)
    (kept : t.work.Keeps s.store.settings.interval) :
    work.Keeps s.store.settings.interval := by
  cases h with
  | arm | sweep => trivial
  | begin => exact ⟨rfl, period_new s.now bounded⟩
  | tick hw =>
      rw [hw] at kept
      obtain ⟨rfl, period⟩ := kept
      exact ⟨rfl, by rw [nextTicker, if_pos rfl]; exact period⟩
  | proceed hw | finish hw => rw [hw] at kept; exact kept

/-! ## What a launch knows -/

theorem current_of_inactive {s : System} (store : s.store.Sound)
    (inactive : s.supervisor.isActive = false)
    (handed : ∀ t ∈ s.tasks, t.generation ≤ s.store.generation)
    (cadence : ∀ t ∈ s.tasks, s.store.isCancelled t.generation = false →
      t.work.Keeps s.store.settings.interval) : s.Current := by
  refine ⟨store, ?_, handed, cadence⟩
  intro active
  rw [inactive] at active
  cases active

theorem Transition.current
    (h : Transition s e s' done) (o : s.Orderly) (c : s.Current) : s'.Current := by
  cases h with
  | call => exact current_of_inactive c.store rfl c.handed c.cadence
  | launch hsup =>
      have hnone := o.tasks_eq_nil (Supervisor.awaited_eq_nil hsup)
      refine ⟨c.store.markRunning, fun _ => rfl, ?_, ?_⟩
      · simp [System.launched, hnone, Store.markRunning]
      · simp [System.launched, hnone, Work.Keeps]
  | notice hsup | join hsup =>
      exact ⟨c.store, fun _ => c.marked (by rw [hsup]; rfl), c.handed, c.cadence⟩
  | pause => exact current_of_inactive c.store rfl c.handed c.cadence
  | terminate => exact current_of_inactive c.store.markStopped rfl c.handed c.cadence
  | @task l r t e next status log done htasks step =>
      have mem : t ∈ s.tasks := mem_of_split htasks
      refine ⟨c.store, c.marked, ?_, ?_⟩
      · intro a ha
        rcases mem_edit ha with old | ⟨work, -, rfl⟩
        · exact c.handed a (htasks ▸ old)
        · exact c.handed t mem
      · intro a ha live
        rcases mem_edit ha with old | ⟨work, rfl, rfl⟩
        · exact c.cadence a (htasks ▸ old) live
        · exact step.keeps c.store.interval (c.cadence t mem live)
  | update u =>
      obtain ⟨running, later, old⟩ := s.store.apply_keeps u
      refine ⟨c.store.apply u, fun active => running.trans (c.marked active), ?_, ?_⟩
      · intro t ht
        exact Nat.le_trans (c.handed t ht) later
      · -- A task lives, so the store is marked as running, and the update cancels what it changes.
        intro t ht live
        rcases c.store.apply_of_running (c.marked (o.active ht)) u with ⟨-, same⟩ | ⟨-, cancels⟩
        · dsimp only at live ⊢
          rw [same] at live ⊢
          exact c.cadence t ht live
        · rw [cancels t.generation (c.handed t ht)] at live
          cases live
  | shutdown => exact ⟨c.store, c.marked, c.handed, c.cadence⟩
  | wait => exact ⟨c.store, c.marked, c.handed, c.cadence⟩

theorem System.Leads.current {s t : System} {es : List Event} (h : s.Leads es t) (o : s.Orderly)
    (c : s.Current) : t.Current := by
  refine h.induction (P := fun _ t => t.Current) o c ?_
  intro es t e u more _ ot ct _ tr
  exact tr.current ot ct

/-- How many launches are due to a state: a call brings one, and so does a generation that is
cancelled while it is watched. -/
def System.launchable (s : System) : Nat :=
  match s.supervisor with
  | .starting | .pausing _ => 1
  | .watching g _ => if s.store.isCancelled g then 1 else 0
  | .joining _ => if s.shutdown then 0 else 1
  | .absent | .ended => 0

theorem System.launchable_le_one (s : System) : s.launchable ≤ 1 := by
  unfold System.launchable
  split
  · exact Nat.le_refl 1
  · exact Nat.le_refl 1
  · split <;> decide
  · split <;> decide
  · exact Nat.zero_le 1
  · exact Nat.zero_le 1

/-- Launches are paid from those that are due; only a call and a restart add one. -/
theorem Transition.launchable (h : Transition s e s' done) (c : s.Current) :
    s'.status.launches + s'.launchable + s.store.restarts ≤
      s.status.launches + s.launchable + s'.store.restarts + calls [e] := by
  cases h with
  | call =>
      show s.status.launches + 1 + s.store.restarts ≤ _ + s.store.restarts + 1
      omega
  | launch hsup =>
      have before : s.launchable = 1 := by
        rcases hsup with h | ⟨_, h, -⟩ <;> rw [System.launchable, h]
      have after : s.launched.launchable = 0 := by
        show (if s.store.isCancelled s.store.generation then 1 else 0) = 0
        rw [c.store.current]
        rfl
      rw [before, after]
      exact Nat.le_refl _
  | notice hsup signal =>
      show s.status.launches + (if s.shutdown then 0 else 1) + s.store.restarts ≤ _
      rw [System.launchable, hsup]
      rcases signal with off | old
      · simp only [off, if_true]
        omega
      · simp only [old, if_true]
        split <;> omega
  | join hsup => simp [System.launchable, hsup]
  | pause hsup on => simp [System.launchable, hsup, on]
  | terminate =>
      show s.status.launches + 0 + s.store.restarts ≤ _ + s.store.restarts + _
      omega
  | task _ step =>
      have same := step.launches_eq
      simp only [System.launchable, same]
      exact Nat.le_add_right _ _
  | update u =>
      rcases s.store.apply_cases u with ⟨-, eq⟩ | ⟨-, -, eq⟩ | ⟨-, -, eq⟩
      · simp only [eq]
        exact Nat.le_add_right _ _
      · simp only [eq]
        exact Nat.le_add_right _ _
      · -- A restart pays for the launch that is due from now on.
        have due := System.launchable_le_one { s with store := (s.store.apply u).2 }
        have restarts : (s.store.apply u).2.restarts = s.store.restarts + 1 := by rw [eq]; rfl
        simp only [restarts] at due ⊢
        omega
  | shutdown =>
      have le : System.launchable { s with shutdown := true } ≤ s.launchable := by
        cases hsup : s.supervisor <;> simp [System.launchable, hsup]
      show s.status.launches + _ + s.store.restarts ≤ _ + s.store.restarts + _
      omega
  | wait => exact Nat.le_refl _

/-! ## What becomes of a generation -/

section Launch

variable {s₀ s s' : System} {es : List Event} {e : Event}

end Launch

/-! ## Checks keep the cadence -/

/-- The event begins a check, of a task whose generation is not cancelled.  The ticker that the task
was waiting for, if it had one, and the ticker that it goes on with have the interval of the store
as their period. -/
def BeginsInCadence (s : System) (e : Event) (s' : System) : Prop :=
  ∃ t ∈ s.tasks, e.task? = some t.id ∧ s.store.isCancelled t.generation = false ∧
    (t.work = .freshCheck ∨
      ∃ ticker, t.work = .idle ticker s.store.settings.interval ∧
        ticker.period = s.store.settings.interval) ∧
    ∃ t' ∈ s'.tasks, t'.id = t.id ∧
      ∃ ticker, t'.work = .check ticker s.store.settings.interval .collecting ∧
        ticker.period = s.store.settings.interval

theorem TaskStep.begins (h : TaskStep s t e next status log done) (hsome : 0 < begun done) :
    e.task? = some t.id ∧ s.store.isCancelled t.generation = false ∧
      (t.work = .freshCheck ∨ ∃ ticker interval, t.work = .idle ticker interval) ∧
      ∃ ticker, next = some (.check ticker s.store.settings.interval .collecting) := by
  cases h with
  | begin hw current => exact ⟨rfl, current, Or.inl hw, _, rfl⟩
  | @tick ticker interval _ _ hw stay =>
      have current : s.store.isCancelled t.generation = false := by
        simp only [System.mustEnd, Bool.or_eq_false_iff] at stay
        exact stay.2
      exact ⟨rfl, current, Or.inr ⟨ticker, interval, hw⟩, _, rfl⟩
  | @proceed ticker interval state state' answer log first clock hw advance unfinished =>
      have going := (Check.State.Advance.of_advance? advance).ne_collecting
      rw [begun_question _ going] at hsome
      cases hsome
  | leave | arm | sweep | abandon | collapse | finish => cases hsome

theorem Transition.begins (h : Transition s e s' done) (c : s.Current) (hsome : 0 < begun done) :
    BeginsInCadence s e s' := by
  cases h with
  | @task l r t e next status log done htasks step =>
      have mem : t ∈ s.tasks := mem_of_split htasks
      obtain ⟨task, current, work, ticker, rfl⟩ := step.begins hsome
      have kept := c.cadence t mem current
      have keeps := step.keeps c.store.interval kept
      refine ⟨t, mem, task, current, ?_,
        { t with work := .check ticker s.store.settings.interval .collecting }, ?_, rfl, ticker, rfl,
        keeps.2⟩
      · rcases work with fresh | ⟨old, interval, hw⟩
        · exact Or.inl fresh
        · rw [hw] at kept
          obtain ⟨rfl, period⟩ := kept
          exact Or.inr ⟨old, hw, period⟩
      · exact List.mem_append_right l List.mem_cons_self
  | _ => cases hsome

end ClusterWatch.Scheduler

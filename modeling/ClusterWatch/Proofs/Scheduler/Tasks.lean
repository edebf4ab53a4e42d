/-
# The tasks that live at one time

At any time the live tasks are some of the two that the latest launch started: one that sweeps the
log and one that makes checks.  The number, the generation and the kind of a task never change, so
a list of them (`Task.label`) tells which tasks live, and the invariant `System.Orderly` says that
it is a sublist of the two labels of one launch.

That a launch finds no live task is the second half of the invariant: every live task is one that
the supervisor has still to wait for.  Where the supervisor waits for none - before the first
launch, in the pause, after the end - none lives.
-/
import ClusterWatch.Proofs.Scheduler.Transition

namespace ClusterWatch.Scheduler

inductive Kind where
  | sweep
  | check
deriving DecidableEq, Repr

def Work.kind : Work → Kind
  | .freshSweep => .sweep
  | .sweep _ => .sweep
  | .freshCheck => .check
  | .idle .. => .check
  | .check .. => .check

/-- What of a task never changes. -/
def Task.label (t : Task) : TaskId × Generation × Kind := (t.id, t.generation, t.work.kind)

/-- The labels of the tasks of a launch whose first task has the number `n`. -/
def launchLabels (n : TaskId) (g : Generation) : List (TaskId × Generation × Kind) :=
  [(n, g, .sweep), (n + 1, g, .check)]

/-- The tasks that the supervisor has still to wait for. -/
def Supervisor.awaited : Supervisor → List TaskId
  | .watching _ ids => ids
  | .joining ids => ids
  | _ => []

theorem Supervisor.awaited_eq_nil {σ : Supervisor} {P : Millis → Prop}
    (h : σ = .starting ∨ ∃ expiry, σ = .pausing expiry ∧ P expiry) : σ.awaited = [] := by
  rcases h with rfl | ⟨_, rfl, -⟩
  · rfl
  · rfl

def System.count (s : System) (p : Work → Bool) : Nat := s.tasks.countP fun t => p t.work

def System.live (s : System) (k : Kind) : Nat := s.count fun work => work.kind = k

/-- The checks under way, each from its first question to its last answer. -/
def System.underWay (s : System) : Nat := s.count Work.isUnderWay

theorem count_launch (s : System) (p : Work → Bool) :
    s.launched.count p = s.count p + [Work.freshSweep, Work.freshCheck].countP p := by
  simp [System.count, System.launched, List.countP_cons]

/-- All live tasks belong to one launch, and the supervisor has still to wait for them. -/
structure System.Orderly (s : System) : Prop where
  labels : ∃ n g, (s.tasks.map Task.label).Sublist (launchLabels n g)
  awaited : ∀ t ∈ s.tasks, t.id ∈ s.supervisor.awaited

namespace System.Orderly

variable {s : System}

theorem distinct (o : s.Orderly) : (s.tasks.map Task.id).Nodup := by
  obtain ⟨n, g, sub⟩ := o.labels
  have ids := sub.map Prod.fst
  rw [List.map_map] at ids
  exact List.Nodup.sublist ids (by simp [launchLabels])

theorem tasks_eq_nil (o : s.Orderly) (h : s.supervisor.awaited = []) : s.tasks = [] := by
  apply List.eq_nil_iff_forall_not_mem.mpr
  intro t ht
  have := o.awaited t ht
  rw [h] at this
  exact List.not_mem_nil this

theorem live_le_one (o : s.Orderly) (k : Kind) : s.live k ≤ 1 := by
  obtain ⟨n, g, sub⟩ := o.labels
  have count : s.live k = (s.tasks.map Task.label).countP fun a => a.2.2 = k := by
    rw [List.countP_map]; rfl
  rw [count]
  refine Nat.le_trans sub.countP_le ?_
  cases k <;> exact Nat.le_refl 1

theorem underWay_le_live (s : System) : s.underWay ≤ s.live .check := by
  apply List.countP_mono_left
  intro t _ h
  match hw : t.work with
  | .check .. => simp [Work.kind]
  | .freshSweep | .sweep _ | .freshCheck | .idle .. => rw [hw] at h; cases h

theorem underWay_le_one (o : s.Orderly) : s.underWay ≤ 1 :=
  Nat.le_trans (underWay_le_live s) (o.live_le_one .check)

end System.Orderly

/-! ## The invariant is kept -/

variable {s s' : System} {t : Task} {e : Event} {next : Option Work} {status : Status}
  {log : AnnouncementLog} {done : List Effect}

theorem TaskStep.kind {work : Work} (h : TaskStep s t e (some work) status log done) :
    work.kind = t.work.kind := by
  cases h with
  | arm hw | sweep hw | begin hw | tick hw | proceed hw | finish hw => rw [hw]; rfl

theorem labels_task {l r : List Task} (h : TaskStep s t e next status log done) :
    ((edit l t next r).map Task.label).Sublist ((l ++ t :: r).map Task.label) := by
  cases next with
  | none =>
      apply List.Sublist.map
      exact (List.Sublist.refl l).append (List.sublist_cons_self t r)
  | some work =>
      have same : Task.label { t with work } = t.label := by
        simp only [Task.label, h.kind]
      simp [edit, same]

/-- A step keeps the tasks orderly. -/
theorem Transition.orderly (h : Transition s e s' done) (o : s.Orderly) : s'.Orderly := by
  cases h with
  | call hsup =>
      have hnone : s.tasks = [] := o.tasks_eq_nil (by rcases hsup with h | h <;> rw [h] <;> rfl)
      exact ⟨o.labels, by simp [hnone]⟩
  | launch hsup =>
      have hnone := o.tasks_eq_nil (Supervisor.awaited_eq_nil hsup)
      refine ⟨⟨s.nextTask, s.store.generation, ?_⟩, ?_⟩
      · simp [System.launched, hnone, launchLabels, Task.label, Work.kind, Store.markRunning]
      · simp [System.launched, hnone, Supervisor.awaited]
  | notice hsup =>
      refine ⟨o.labels, ?_⟩
      intro t ht
      have := o.awaited t ht
      rw [hsup] at this
      exact this
  | @join first id more hsup ended =>
      refine ⟨o.labels, ?_⟩
      intro t ht
      have await := o.awaited t ht
      rw [hsup] at await
      refine (List.mem_cons.mp await).resolve_left ?_
      -- The one that is no longer waited for has ended.
      intro same
      have dead : s.task? id = none := by simpa [System.isLive] using ended
      have other := List.find?_eq_none.mp dead t ht
      exact other (beq_iff_eq.mpr same)
  | pause hsup =>
      have hnone : s.tasks = [] := o.tasks_eq_nil (by rw [hsup]; rfl)
      exact ⟨o.labels, by simp [hnone]⟩
  | terminate hsup =>
      have hnone : s.tasks = [] :=
        o.tasks_eq_nil (by rcases hsup with h | ⟨_, h⟩ <;> rw [h] <;> rfl)
      exact ⟨o.labels, by simp [System.terminate, hnone]⟩
  | @task l r t e next status log done htasks step =>
      obtain ⟨n, g, sub⟩ := o.labels
      rw [htasks] at sub
      refine ⟨⟨n, g, (labels_task step).trans sub⟩, ?_⟩
      intro a ha
      have label : a.label ∈ (l ++ t :: r).map Task.label :=
        (labels_task step).subset (List.mem_map_of_mem ha)
      obtain ⟨b, hb, heq⟩ := List.mem_map.mp label
      have id : b.id = a.id := congrArg Prod.fst heq
      exact id ▸ o.awaited b (htasks ▸ hb)
  | update u => exact ⟨o.labels, o.awaited⟩
  | shutdown => exact ⟨o.labels, o.awaited⟩
  | wait time => exact ⟨o.labels, o.awaited⟩

theorem orderly_new (store : Store) (log : AnnouncementLog) (deduplicate : Bool) :
    (System.new store log deduplicate).Orderly :=
  ⟨⟨0, 0, List.nil_sublist _⟩, fun _ ht => absurd ht List.not_mem_nil⟩

end ClusterWatch.Scheduler

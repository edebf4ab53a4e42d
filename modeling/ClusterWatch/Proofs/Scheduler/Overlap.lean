/-
# Launches do not overlap

At most one task of each kind lives, and at most one check is under way, whatever the updates, the
ticks, the shutdown, the answers and the failures that take a check with them, and in whatever
order they come (`System.Orderly`).

A launch that is not the first of a call of the scheduler comes out of a pause.  The deadline of a
pause is fixed when it begins, so all that has to be carried along a run is where it began
(`PausedSince`): at a state in which both tasks had ended, and no launch has come in between.
-/
import ClusterWatch.Proofs.Scheduler.History

namespace ClusterWatch.Scheduler

/-- A pause began in an earlier state of the run `es` from `s`, in which no task lived. -/
def PausedSince (s : System) (es : List Event) (t : System) : Prop :=
  ∀ expiry, t.supervisor = .pausing expiry →
    ∃ es₁ es₂ p, es = es₁ ++ es₂ ∧ s.Leads es₁ p ∧ p.Leads es₂ t ∧ p.tasks = [] ∧
      p.status.launches = t.status.launches ∧ expiry = p.now + restartPause

/-- A step that touches neither the supervisor nor the number of launches carries the pause on. -/
theorem PausedSince.snoc {s t u : System} {es : List Event} {e : Event} {more : List Effect}
    (h : PausedSince s es t) (hstep : t.step e = some (u, more))
    (supervisor : u.supervisor = t.supervisor)
    (launches : u.status.launches = t.status.launches) : PausedSince s (es ++ [e]) u := by
  intro expiry hsup
  obtain ⟨es₁, es₂, p, rfl, first, rest, tasks, count, deadline⟩ :=
    h expiry (supervisor.symm.trans hsup)
  refine ⟨es₁, es₂ ++ [e], p, List.append_assoc .., first, ?_, tasks, ?_, deadline⟩
  · exact System.leads_append_iff.mpr ⟨t, rest, System.leads_singleton hstep⟩
  · exact count.trans launches.symm

theorem pausedSince {s t : System} {es : List Event} (o : s.Orderly)
    (start : ∀ expiry, s.supervisor ≠ .pausing expiry) (h : s.Leads es t) :
    PausedSince s es t := by
  refine h.induction o (fun expiry hsup => absurd hsup (start expiry)) ?_
  intro es t e u more hrun ot ht hstep tr
  cases tr with
  | call | launch | notice | join | terminate => intro expiry hsup; cases hsup
  | pause hsup =>
      intro expiry heq
      cases heq
      have hnone : t.tasks = [] := ot.tasks_eq_nil (by rw [hsup]; rfl)
      exact ⟨es, [_], t, rfl, hrun, System.leads_singleton hstep, hnone, rfl, rfl⟩
  | task htasks step => exact ht.snoc hstep rfl step.launches_eq
  | update | shutdown | wait => exact ht.snoc hstep rfl rfl

/-- In every state that a run of the scheduler leads to, at most one task that makes checks lives,
at most one that sweeps the log, and at most one check is under way.  If the next step launches and
is not the first of its call to do so, then the run has passed a state `t` since the launch before,
a pause ago or more, in which no task lived, and none lives now. -/
theorem launches_never_overlap {store : Store} {log : AnnouncementLog} {deduplicate : Bool}
    {es : List Event} {s : System} (h : (System.new store log deduplicate).Leads es s) :
    s.live .check ≤ 1 ∧ s.live .sweep ≤ 1 ∧ s.underWay ≤ 1 ∧
      ∀ l : PastLaunch (System.new store log deduplicate) es s, calls l.after = 0 →
        ∀ e s', s.Launches e s' →
          s.tasks = [] ∧
            ∃ es₁ es₂ t, l.after = es₁ ++ es₂ ∧ l.target.Leads es₁ t ∧ t.Leads es₂ s ∧
              t.tasks = [] ∧ t.status.launches = s.status.launches ∧
              t.now + restartPause ≤ s.now := by
  have o := orderly_new store log deduplicate
  have os := h.orderly o
  refine ⟨os.live_le_one .check, os.live_le_one .sweep, os.underWay_le_one, ?_⟩
  intro l hnone e s' next
  obtain ⟨expiry, hsup, due⟩ := l.pausing_of_launches o hnone next
  refine ⟨os.tasks_eq_nil (by rw [hsup]; rfl), ?_⟩
  have start : ∀ expiry, l.target.supervisor ≠ .pausing expiry := by
    intro expiry heq
    rw [l.target_eq o] at heq
    cases heq
  obtain ⟨es₁, es₂, t, hes, first, rest, tasks, count, rfl⟩ :=
    pausedSince (l.orderly_target o) start l.leads expiry hsup
  exact ⟨es₁, es₂, t, hes, first, rest, tasks, count, due⟩

/-- The second launch of a call whose interval was changed while a check was under way. -/
theorem restart_does_not_overlap :
    ∃ s, serviceAtRest.Leads restart s ∧ s.Launches (.supervise .work) s.launched ∧
      s.launched.status.launches = 2 ∧ s.live .check ≤ 1 ∧ s.tasks = [] := by
  let s : System := ((serviceAtRest.run restart).get rfl).1
  let l : PastLaunch serviceAtRest restart s :=
    ⟨⟨[.start false], .supervise .work, intervalChange, _, _, _, _, rfl, ⟨_, rfl⟩, rfl, rfl⟩, rfl⟩
  have run : serviceAtRest.Leads restart s := ⟨_, rfl⟩
  have next : s.Launches (.supervise .work) s.launched :=
    System.launches_of_pausing rfl rfl (Nat.le_refl _) .work
  have apart := launches_never_overlap run
  exact ⟨s, run, next, rfl, apart.1, (apart.2.2.2 l rfl _ _ next).1⟩

end ClusterWatch.Scheduler

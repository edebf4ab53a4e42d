/-
# What begins after a shutdown

A task that waits for its next tick looks at the shutdown before anything else, so once the service
shuts down no tick begins a check.  The first check of a launch is begun without that look: where
the shutdown has come too, the step has a choice between the two, and may take the check.  So a
check can begin after a shutdown, and it is the first check of a launch.

How many such checks are still to come is read off a state (`System.beginnable`): one for each task
that has not run yet, and one for a launch that the shutdown may no longer hold up.  No step adds to
them once the service shuts down, and a check that begins is paid from them, so there is at most
one, and none where the tasks of the launch have run already.
-/
import ClusterWatch.Proofs.Scheduler.Generations

namespace ClusterWatch.Scheduler

def Work.isFreshCheck : Work → Bool
  | .freshCheck => true
  | _ => false

/-- How many checks may still begin when the service shuts down now. -/
def System.beginnable (s : System) : Nat :=
  match s.supervisor with
  | .starting | .pausing _ => 1
  | .watching .. | .joining _ => s.count Work.isFreshCheck
  | .absent | .ended => 0

/-- A check is begun in a step that could have looked at the shutdown: it is the first check of a
task whose generation is current, and the step takes the check. -/
def BeginsRegardless (s : System) (e : Event) : Prop :=
  ∃ t ∈ s.tasks, t.work = .freshCheck ∧ s.store.isCancelled t.generation = false ∧
    ∃ clock, e = .resume t.id .work clock

variable {s s' : System} {t : Task} {e : Event} {next : Option Work} {status : Status}
  {log : AnnouncementLog} {done : List Effect}

/-! ## One step -/

theorem TaskStep.begins_regardless (h : TaskStep s t e next status log done)
    (down : s.shutdown = true) (hsome : 0 < begun done) :
    t.work = .freshCheck ∧ s.store.isCancelled t.generation = false ∧
      ∃ clock, e = .resume t.id .work clock := by
  cases h with
  | begin hw current unlooked =>
      cases unlooked down
      exact ⟨hw, current, _, rfl⟩
  | tick _ stay => simp [System.mustEnd, down] at stay
  | proceed _ advance =>
      have going := (Check.State.Advance.of_advance? advance).ne_collecting
      rw [begun_question _ going] at hsome
      cases hsome
  | leave | arm | sweep | abandon | collapse | finish => cases hsome

theorem TaskStep.beginnable (h : TaskStep s t e next status log done) (down : s.shutdown = true) :
    begun done + next.toList.countP Work.isFreshCheck ≤ [t.work].countP Work.isFreshCheck := by
  cases h with
  | begin hw => rw [hw]; exact Nat.le_refl 1
  | tick _ stay => simp [System.mustEnd, down] at stay
  | proceed _ advance =>
      have going := (Check.State.Advance.of_advance? advance).ne_collecting
      rw [begun_question _ going]
      exact Nat.zero_le _
  | leave | arm | sweep | abandon | collapse | finish => exact Nat.zero_le _

theorem System.beginnable_of_active (active : s.supervisor.isActive = true) :
    s.beginnable = s.count Work.isFreshCheck := by
  unfold System.beginnable
  split
  · next hsup => rw [hsup] at active; cases active
  · next hsup => rw [hsup] at active; cases active
  · rfl
  · rfl
  · next hsup => rw [hsup] at active; cases active
  · next hsup => rw [hsup] at active; cases active

theorem System.beginnable_le_one (o : s.Orderly) : s.beginnable ≤ 1 := by
  have fresh : s.count Work.isFreshCheck ≤ 1 := by
    refine Nat.le_trans ?_ (o.live_le_one .check)
    apply List.countP_mono_left
    intro t _ h
    match hw : t.work with
    | .freshCheck => rfl
    | .freshSweep | .sweep _ | .idle .. | .check .. => rw [hw] at h; cases h
  unfold System.beginnable
  split
  · exact Nat.le_refl 1
  · exact Nat.le_refl 1
  · exact fresh
  · exact fresh
  · exact Nat.zero_le 1
  · exact Nat.zero_le 1

theorem Transition.shutdown_stays (h : Transition s e s' done) (noCall : e.isCall = false)
    (down : s.shutdown = true) : s'.shutdown = true := by
  cases h with
  | call => cases noCall
  | shutdown => rfl
  | launch | notice | join | pause | terminate | task | update | wait => exact down

/-- Once the service shuts down, checks that begin are paid from those that may, and no step adds
one. -/
theorem Transition.beginnable (h : Transition s e s' done) (o : s.Orderly)
    (noCall : e.isCall = false) (down : s.shutdown = true) :
    begun done + s'.beginnable ≤ s.beginnable := by
  cases h with
  | call => cases noCall
  | launch hsup =>
      have before : s.beginnable = 1 := by
        rcases hsup with h | ⟨_, h, -⟩ <;> rw [System.beginnable, h]
      have hnone := o.tasks_eq_nil (Supervisor.awaited_eq_nil hsup)
      have after : s.launched.beginnable = 1 := by
        show s.launched.count Work.isFreshCheck = 1
        rw [count_launch, System.count, hnone]
        rfl
      rw [before, after]
      exact Nat.le_refl 1
  | notice hsup | join hsup => simp [System.beginnable, hsup, begun, System.count]
  | pause _ on => rw [down] at on; cases on
  | terminate => exact Nat.zero_le _
  | @task l r t e next status log done htasks step =>
      have active := o.active (mem_of_split htasks)
      rw [System.beginnable_of_active active, System.beginnable_of_active (by exact active)]
      have edited := countP_edit Work.isFreshCheck l r t next
      rw [← htasks] at edited
      have paid := step.beginnable down
      simp only [System.count]
      omega
  | update | wait | shutdown =>
      show 0 + _ ≤ _
      rw [Nat.zero_add]
      exact Nat.le_refl _

theorem Transition.begins_regardless (h : Transition s e s' done) (down : s.shutdown = true)
    (hsome : 0 < begun done) : BeginsRegardless s e := by
  cases h with
  | task htasks step =>
      obtain ⟨fresh, current, event⟩ := step.begins_regardless down hsome
      exact ⟨_, mem_of_split htasks, fresh, current, event⟩
  | _ => cases hsome

theorem task?_of_mem (distinct : (s.tasks.map Task.id).Nodup) (h : t ∈ s.tasks) :
    s.task? t.id = some t := by
  obtain ⟨l, r, htasks⟩ := List.append_of_mem h
  rw [htasks] at distinct
  refine List.find?_eq_some_iff_append.mpr ⟨beq_self_eq_true t.id, l, r, htasks, ?_⟩
  intro a ha
  simpa using (ne_of_distinct distinct).1 a ha

theorem begun_of_beginsRegardless (distinct : (s.tasks.map Task.id).Nodup)
    (h : BeginsRegardless s e) (taken : s.step e = some (s', done)) : 0 < begun done := by
  obtain ⟨t, ht, fresh, current, clock, rfl⟩ := h
  simp only [System.step, task?_of_mem distinct ht, Option.bind_some, System.resume, fresh, current,
    System.beginCheck, reduceCtorEq, and_false, if_false] at taken
  cases taken
  exact Nat.one_pos

/-! ## After a shutdown -/

/-- Once the service shuts down, a run without a call begins no more checks than may begin, and none
unless some step takes a check where it could have looked at the shutdown. -/
theorem begun_of_down {es : List Event} (o : s.Orderly) (down : s.shutdown = true)
    (h : s.run es = some (s', done)) (noCall : calls es = 0) :
    s'.shutdown = true ∧ begun done + s'.beginnable ≤ s.beginnable ∧
      (0 < begun done → ∃ id clock, Event.resume id .work clock ∈ es) := by
  have kept := System.run_induction
    (P := fun es t done => calls es = 0 → t.shutdown = true ∧
      begun done + t.beginnable ≤ s.beginnable ∧
        (0 < begun done → ∃ id clock, Event.resume id .work clock ∈ es))
    o (fun _ => ⟨down, Nat.le_of_eq (Nat.zero_add _), fun hnone => absurd hnone (by decide)⟩)
    (by
      intro es t done e u more _ ot before _ tr noCall
      rw [calls_append] at noCall
      obtain ⟨down, paid, unlooked⟩ := before (by omega)
      have quiet : e.isCall = false := by
        refine Bool.eq_false_iff.mpr ?_
        intro call
        rw [calls_singleton, if_pos call] at noCall
        omega
      have step := tr.beginnable ot quiet down
      refine ⟨tr.shutdown_stays quiet down, by rw [begun_append]; omega, ?_⟩
      intro hsome
      by_cases earlier : 0 < begun done
      · obtain ⟨id, clock, inside⟩ := unlooked earlier
        exact ⟨id, clock, List.mem_append_left _ inside⟩
      · rw [begun_append] at hsome
        obtain ⟨t, -, -, -, clock, rfl⟩ := tr.begins_regardless down (by omega)
        exact ⟨t.id, clock, by simp⟩)
    h
  exact kept.2 noCall

/-- From a state on in which the service shuts down, until the scheduler is called again:

* At most one check begins.
* None begins where the tasks of the launch have run already.
* A step begins one if and only if it takes the first check of a task whose generation is current,
  where it could have looked at the shutdown instead.
* None begins if every step that has this choice looks at the shutdown. -/
theorem shutdown_begins_one_at_most {store : Store} {log : AnnouncementLog} {deduplicate : Bool}
    {es : List Event} {s : System} (p : PastStep (System.new store log deduplicate) es s)
    (down : p.target.shutdown = true) (noCall : calls p.after = 0) :
    begun p.since ≤ 1 ∧
      (p.target.supervisor.isActive = true → (∀ t ∈ p.target.tasks, t.work ≠ .freshCheck) →
        begun p.since = 0) ∧
      (∀ q : PastStep p.target p.after s,
        0 < begun q.done ↔ BeginsRegardless q.origin q.event) ∧
      ((∀ id clock, Event.resume id .work clock ∉ p.after) → begun p.since = 0) := by
  have o := p.orderly_target (orderly_new store log deduplicate)
  obtain ⟨-, paid, unlooked⟩ := begun_of_down o down p.goesOn noCall
  have one := System.beginnable_le_one o
  refine ⟨by omega, ?_, ?_, ?_⟩
  · intro active run
    have hnone : p.target.beginnable = 0 := by
      rw [System.beginnable_of_active active]
      refine List.countP_eq_zero.mpr ?_
      intro t ht fresh
      match hw : t.work with
      | .freshCheck => exact run t ht hw
      | .freshSweep | .sweep _ | .idle .. | .check .. => rw [hw] at fresh; cases fresh
    omega
  · intro q
    obtain ⟨_, reached⟩ := q.reached
    have before : calls q.before = 0 := by
      have whole := congrArg calls q.events_eq
      rw [calls_append] at whole
      omega
    obtain ⟨stillDown, -, -⟩ := begun_of_down o down reached before
    exact ⟨(q.transition o).begins_regardless stillDown,
      fun unlooked => begun_of_beginsRegardless (q.orderly_origin o).distinct unlooked q.taken⟩
  · intro looked
    by_contra hsome
    obtain ⟨id, clock, inside⟩ := unlooked (Nat.pos_of_ne_zero hsome)
    exact looked id clock inside

/-- The one check does begin after a call that came too late already, and after a pause that ended
when the service shut down. -/
theorem check_begins_after_shutdown :
    (∃ s s', serviceAtRest.Leads [.start true, .supervise .work] s ∧ s.shutdown = true ∧
      s.step (.resume 1 .work 0) = some (s', [.asked 1 .collect])) ∧
    ∃ s s', serviceAtRest.Leads (restart ++ [.shutdown, .supervise .work]) s ∧
      s.shutdown = true ∧ s.step (.resume 3 .work 0) = some (s', [.asked 3 .collect]) :=
  ⟨⟨_, _, ⟨_, rfl⟩, rfl, rfl⟩, _, _, ⟨_, rfl⟩, rfl, rfl⟩

end ClusterWatch.Scheduler

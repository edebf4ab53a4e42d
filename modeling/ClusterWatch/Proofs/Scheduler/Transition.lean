/-
# What a step of the scheduler can do

`System.step` is a program: it looks a task up by its number, asks in a fixed order what has come,
and edits the list of tasks.  `Transition` says the same by cases, one for each thing that can
happen, with what was checked for it and with everything that it changes:

    call        a call of the scheduler is made, by a client
    launch      both tasks are started
    notice      the supervisor sees the cancellation or the shutdown
    join        the supervisor has waited for a task
    pause       both tasks have ended, the pause begins
    terminate   the call of the scheduler ends
    task        one task goes on or ends (`TaskStep`)
    update, shutdown, wait

`Transition.of_step` is the only place where the program is opened.  It needs the numbers of the
tasks to be distinct: the program edits whatever task has the number, a transition edits one place
of the list.  That the numbers stay distinct is the subject of the module on launches, so the two
are used together.
-/
import ClusterWatch.Scheduler.System

namespace ClusterWatch.Scheduler

/-- Whether a task is in the middle of a check, from its first question to its last answer. -/
def Work.isUnderWay : Work → Bool
  | .check .. => true
  | _ => false

def Event.task? : Event → Option TaskId
  | .resume id .. => some id
  | .answer id .. => some id
  | _ => none

/-- The ticker that a task takes over from a tick: the same one, or a new one if the interval has
changed. -/
def nextTicker (s : System) (ticker : Ticker) (interval : Millis) : Ticker :=
  if s.store.settings.interval = interval then ticker.tick s.now
  else .new s.now s.store.settings.interval

/-- The tasks `l`, `t` and `r` in order, with other work for `t`, or without it. -/
def edit (l : List Task) (t : Task) (next : Option Work) (r : List Task) : List Task :=
  l ++ ((next.map fun work => { t with work }).toList ++ r)

/-- `TaskStep s t e next status log done`: in the state `s` the task `t` takes the step of the event
`e`.  It goes on with the work `next`, or ends if there is none, and leaves the status and the log
behind. -/
inductive TaskStep (s : System) (t : Task) :
    Event → Option Work → Status → AnnouncementLog → List Effect → Prop
  | leave {first : Priority} {clock : Instant} :
      t.work.isUnderWay = false → s.shutdown = true ∨ s.store.isCancelled t.generation = true →
      TaskStep s t (.resume t.id first clock) none s.status s.log []
  | arm {first : Priority} {clock : Instant} :
      t.work = .freshSweep → s.mustEnd t = false →
      TaskStep s t (.resume t.id first clock) (some (.sweep (.new s.now sweepPeriod))) s.status
        s.log []
  | sweep {ticker : Ticker} {first : Priority} {clock : Instant} :
      t.work = .sweep ticker → s.mustEnd t = false → ticker.isDue s.now = true →
      TaskStep s t (.resume t.id first clock) (some (.sweep (ticker.tick s.now))) s.status
        (s.log.evict clock).2 [.swept (s.log.evict clock).1]
  | begin {first : Priority} {clock : Instant} :
      t.work = .freshCheck → s.store.isCancelled t.generation = false →
      (s.shutdown = true → first = .work) →
      TaskStep s t (.resume t.id first clock)
        (some (.check (.new s.now s.store.settings.interval) s.store.settings.interval .collecting))
        s.status s.log [.asked t.id .collect]
  | tick {ticker : Ticker} {interval : Millis} {first : Priority} {clock : Instant} :
      t.work = .idle ticker interval → s.mustEnd t = false → ticker.isDue s.now = true →
      TaskStep s t (.resume t.id first clock)
        (some (.check (nextTicker s ticker interval) s.store.settings.interval .collecting))
        s.status s.log [.asked t.id .collect]
  | abandon {e : Event} :
      e.task? = some t.id → t.work.isUnderWay = true → s.shutdown = true →
      TaskStep s t e none s.status s.log [.abandoned t.id]
  | collapse {first : Priority} {clock : Instant} :
      t.work.isUnderWay = true →
      TaskStep s t (.answer t.id .collapse first clock) none s.status s.log [.collapsed t.id]
  | proceed {ticker : Ticker} {interval : Millis} {state state' : Check.State}
      {answer : Check.Answer} {log : AnnouncementLog} {first : Priority} {clock : Instant} :
      t.work = .check ticker interval state →
      state.advance? .notification (s.context clock) answer = some (state', log) →
      (∀ result, state' ≠ .finished result) →
      TaskStep s t (.answer t.id answer first clock) (some (.check ticker interval state'))
        s.status log (state'.call?.map (Effect.asked t.id)).toList
  | finish {ticker : Ticker} {interval : Millis} {state : Check.State}
      {result : Except Failure Check.Result} {answer : Check.Answer} {log : AnnouncementLog}
      {first : Priority} {clock : Instant} :
      t.work = .check ticker interval state →
      state.advance? .notification (s.context clock) answer = some (.finished result, log) →
      TaskStep s t (.answer t.id answer first clock) (some (.idle ticker interval))
        (s.status.record (.ofResult clock result)) log [.recorded t.id]

/-- `Transition s e s' done`: the event `e` leads from `s` to `s'` and does `done` besides. -/
inductive Transition (s : System) : Event → System → List Effect → Prop
  | call {down : Bool} :
      s.supervisor = .absent ∨ s.supervisor = .ended →
      Transition s (.start down) { s with supervisor := .starting, shutdown := down } []
  | launch {first : Priority} :
      s.supervisor = .starting ∨
        (∃ expiry, s.supervisor = .pausing expiry ∧ expiry ≤ s.now ∧
          (s.shutdown = true → first = .work)) →
      Transition s (.supervise first) s.launched [.entered .launching, .entered .running]
  | notice {first : Priority} {generation : Generation} {ids : List TaskId} :
      s.supervisor = .watching generation ids →
      s.shutdown = true ∨ s.store.isCancelled generation = true →
      Transition s (.supervise first) { s with supervisor := .joining ids } []
  | join {first : Priority} {id : TaskId} {more : List TaskId} :
      s.supervisor = .joining (id :: more) → s.isLive id = false →
      Transition s (.supervise first) { s with supervisor := .joining more } []
  | pause {first : Priority} :
      s.supervisor = .joining [] → s.shutdown = false →
      Transition s (.supervise first)
        { s with
          status := { s.status with lifecycle := .launching }
          supervisor := .pausing (s.now + restartPause) } [.entered .launching]
  | terminate {first : Priority} :
      s.supervisor = .joining [] ∨ (∃ expiry, s.supervisor = .pausing expiry) → s.shutdown = true →
      Transition s (.supervise first) s.terminate.1 [.entered .terminated]
  | task {l r : List Task} {t : Task} {e : Event} {next : Option Work} {status : Status}
      {log : AnnouncementLog} {done : List Effect} :
      s.tasks = l ++ t :: r → TaskStep s t e next status log done →
      Transition s e { s with tasks := edit l t next r, status, log } done
  | update (u : Settings.Update) :
      Transition s (.update u) { s with store := (s.store.apply u).2 } []
  | shutdown : Transition s .shutdown { s with shutdown := true } []
  | wait (time : Millis) : Transition s (.wait time) { s with now := s.now + time } []

/-! ## Editing the list of tasks -/

section Edit

variable {s : System} {l r : List Task} {t : Task}

theorem ne_of_distinct (distinct : ((l ++ t :: r).map Task.id).Nodup) :
    (∀ a ∈ l, a.id ≠ t.id) ∧ ∀ a ∈ r, a.id ≠ t.id := by
  simp only [List.map_append, List.map_cons, List.nodup_append, List.nodup_cons, List.mem_map,
    List.mem_cons] at distinct
  obtain ⟨-, ⟨hr, -⟩, hl⟩ := distinct
  refine ⟨?_, ?_⟩
  · intro a ha
    exact hl a.id ⟨a, ha, rfl⟩ t.id (Or.inl rfl)
  · intro a ha heq
    exact hr ⟨a, ha, heq⟩

theorem drop_eq (h : s.tasks = l ++ t :: r) (distinct : (s.tasks.map Task.id).Nodup) :
    s.drop t.id = { s with tasks := l ++ r } := by
  rw [h] at distinct
  obtain ⟨hl, hr⟩ := ne_of_distinct distinct
  have keepsL : l.filter (fun a => a.id != t.id) = l :=
    List.filter_eq_self.mpr fun a ha => bne_iff_ne.mpr (hl a ha)
  have keepsR : r.filter (fun a => a.id != t.id) = r :=
    List.filter_eq_self.mpr fun a ha => bne_iff_ne.mpr (hr a ha)
  simp [System.drop, h, keepsL, keepsR]

theorem setWork_eq (h : s.tasks = l ++ t :: r) (distinct : (s.tasks.map Task.id).Nodup)
    (work : Work) :
    s.setWork t.id work = { s with tasks := l ++ { t with work } :: r } := by
  rw [h] at distinct
  obtain ⟨hl, hr⟩ := ne_of_distinct distinct
  have keepsL : l.map (fun a => if a.id = t.id then { a with work } else a) = l :=
    (List.map_congr_left fun a ha => if_neg (hl a ha)).trans (List.map_id' l)
  have keepsR : r.map (fun a => if a.id = t.id then { a with work } else a) = r :=
    (List.map_congr_left fun a ha => if_neg (hr a ha)).trans (List.map_id' r)
  simp [System.setWork, h, keepsL, keepsR]

theorem split_of_task? {id : TaskId} (h : s.task? id = some t) :
    t.id = id ∧ ∃ l r, s.tasks = l ++ t :: r := by
  obtain ⟨hid, l, r, htasks, -⟩ := List.find?_eq_some_iff_append.mp h
  exact ⟨by simpa using hid, l, r, htasks⟩

theorem mem_of_split (h : s.tasks = l ++ t :: r) : t ∈ s.tasks :=
  h ▸ List.mem_append_right l List.mem_cons_self

theorem mem_edit {a : Task} {next : Option Work} (h : a ∈ edit l t next r) :
    a ∈ l ++ t :: r ∨ ∃ work, next = some work ∧ a = { t with work } := by
  simp only [edit, List.mem_append, Option.mem_toList, Option.map_eq_some_iff, List.mem_cons] at h ⊢
  rcases h with h | ⟨work, hwork, heq⟩ | h
  · exact Or.inl (Or.inl h)
  · exact Or.inr ⟨work, hwork, heq.symm⟩
  · exact Or.inl (Or.inr (Or.inr h))

/-- Where one place of the list of tasks is edited, counting notices that place alone. -/
theorem countP_edit (p : Work → Bool) (l r : List Task) (t : Task) (next : Option Work) :
    (edit l t next r).countP (fun a => p a.work) + [t.work].countP p =
      (l ++ t :: r).countP (fun a => p a.work) + next.toList.countP p := by
  cases next with
  | none =>
      simp [edit, List.countP_cons]
      omega
  | some work =>
      simp [edit, List.countP_cons]
      omega

end Edit

/-! ## Every step is a transition -/

theorem transition_of_supervise {s s' : System} {first : Priority} {done : List Effect}
    (h : s.supervise first = some (s', done)) : Transition s (.supervise first) s' done := by
  unfold System.supervise at h
  split at h
  · cases h
  · next hsup =>
    cases h
    exact .launch (Or.inl hsup)
  · next generation ids hsup =>
    split at h
    · next signal =>
      cases h
      exact .notice hsup signal
    · cases h
  · next ids hsup =>
    split at h
    · unfold System.afterJoin at h
      split at h
      · next off =>
        cases h
        exact .terminate (Or.inl hsup) off
      · next on =>
        cases h
        exact .pause hsup (by simpa using on)
    · next id more =>
      split at h
      · cases h
      · next ended =>
        cases h
        exact .join hsup (by simpa using ended)
  · next expiry hsup =>
    split at h
    · next off =>
      cases h
      exact .terminate (Or.inr ⟨expiry, hsup⟩) off.1
    · next on =>
      split at h
      · next due =>
        cases h
        refine .launch (Or.inr ⟨expiry, hsup, due, ?_⟩)
        intro off
        cases first with
        | shutdown => exact absurd ⟨off, Or.inl rfl⟩ on
        | work => rfl
      · cases h
  · cases h

section Task

variable {s s' : System} {t : Task} {l r : List Task} {first : Priority} {clock : Instant}
  {done : List Effect}

theorem transition_drop (htasks : s.tasks = l ++ t :: r)
    (distinct : (s.tasks.map Task.id).Nodup) {e : Event}
    (h : TaskStep s t e none s.status s.log done) : Transition s e (s.drop t.id) done := by
  rw [drop_eq htasks distinct]
  exact .task htasks h

theorem transition_setWork (htasks : s.tasks = l ++ t :: r)
    (distinct : (s.tasks.map Task.id).Nodup) {e : Event} {work : Work} {status : Status}
    {log : AnnouncementLog} (h : TaskStep s t e (some work) status log done) :
    Transition s e ({ s with status, log }.setWork t.id work) done := by
  rw [setWork_eq (s := { s with status, log }) htasks distinct]
  exact .task htasks h

theorem transition_beginCheck (htasks : s.tasks = l ++ t :: r)
    (distinct : (s.tasks.map Task.id).Nodup) {ticker : Ticker} {interval : Millis}
    (idle : t.work.isUnderWay = false)
    (h : (s.shutdown = true → first = .work) →
      TaskStep s t (.resume t.id first clock) (some (.check ticker interval .collecting)) s.status
        s.log [.asked t.id .collect])
    (begun : s.beginCheck t.id ticker interval first = (s', done)) :
    Transition s (.resume t.id first clock) s' done := by
  unfold System.beginCheck at begun
  split at begun
  · next off =>
    cases begun
    exact transition_drop htasks distinct (.leave idle (Or.inl off.1))
  · next on =>
    cases begun
    refine transition_setWork htasks distinct (h ?_)
    intro off
    cases first with
    | shutdown => exact absurd ⟨off, rfl⟩ on
    | work => rfl

theorem signal_of_mustEnd (h : s.mustEnd t = true) :
    s.shutdown = true ∨ s.store.isCancelled t.generation = true := by
  simpa [System.mustEnd] using h

theorem transition_of_resume (htasks : s.tasks = l ++ t :: r)
    (distinct : (s.tasks.map Task.id).Nodup) (h : s.resume t first clock = some (s', done)) :
    Transition s (.resume t.id first clock) s' done := by
  unfold System.resume at h
  split at h
  · next hw =>
    have idle : t.work.isUnderWay = false := by rw [hw]; rfl
    split at h
    · next must =>
      cases h
      exact transition_drop htasks distinct (.leave idle (signal_of_mustEnd must))
    · next stay =>
      cases h
      exact transition_setWork htasks distinct (.arm hw (by simpa using stay))
  · next ticker hw =>
    have idle : t.work.isUnderWay = false := by rw [hw]; rfl
    split at h
    · next must =>
      cases h
      exact transition_drop htasks distinct (.leave idle (signal_of_mustEnd must))
    · next stay =>
      split at h
      · next due =>
        cases h
        exact transition_setWork htasks distinct (.sweep hw (by simpa using stay) due)
      · cases h
  · next hw =>
    have idle : t.work.isUnderWay = false := by rw [hw]; rfl
    split at h
    · next old =>
      cases h
      exact transition_drop htasks distinct (.leave idle (Or.inr old))
    · next current =>
      exact transition_beginCheck htasks distinct idle (.begin hw (by simpa using current))
        (Option.some.inj h)
  · next ticker interval hw =>
    have idle : t.work.isUnderWay = false := by rw [hw]; rfl
    split at h
    · next must =>
      cases h
      exact transition_drop htasks distinct (.leave idle (signal_of_mustEnd must))
    · next stay =>
      split at h
      · next due =>
        exact transition_beginCheck htasks distinct idle
          (fun _ => .tick hw (by simpa using stay) due) (Option.some.inj h)
      · cases h
  · next hw =>
    split at h
    · next off =>
      cases h
      exact transition_drop htasks distinct (.abandon rfl (by rw [hw]; rfl) off)
    · cases h

theorem settleCheck_of_ne (s : System) (id : TaskId) (ticker : Ticker) (interval : Millis)
    (clock : Instant) {state : Check.State} (h : ∀ result, state ≠ .finished result) :
    s.settleCheck id ticker interval clock state =
      (s.setWork id (.check ticker interval state), (state.call?.map (Effect.asked id)).toList) := by
  cases state with
  | finished result => exact absurd rfl (h result)
  | _ => rfl

theorem transition_of_receive {answer : Check.Answer} (htasks : s.tasks = l ++ t :: r)
    (distinct : (s.tasks.map Task.id).Nodup)
    (h : s.receive t answer first clock = some (s', done)) :
    Transition s (.answer t.id answer first clock) s' done := by
  unfold System.receive at h
  split at h
  · next ticker interval state hw =>
    have underWay : t.work.isUnderWay = true := by rw [hw]; rfl
    split at h
    · next off =>
      cases h
      exact transition_drop htasks distinct (.abandon rfl underWay off.1)
    · split at h
      · cases h
        exact transition_drop htasks distinct (.collapse underWay)
      · obtain ⟨⟨state', log⟩, hadvance, h⟩ := Option.map_eq_some_iff.mp h
        by_cases hf : ∃ result, state' = .finished result
        · obtain ⟨result, rfl⟩ := hf
          cases h
          exact transition_setWork htasks distinct (.finish hw hadvance)
        · have unfinished : ∀ result, state' ≠ .finished result :=
            fun result heq => hf ⟨result, heq⟩
          have settled := settleCheck_of_ne { s with log } t.id ticker interval clock unfinished
          cases settled.symm.trans h
          exact transition_setWork htasks distinct (.proceed hw hadvance unfinished)
  · cases h

end Task

/-- Every step is a transition. -/
theorem Transition.of_step {s s' : System} {e : Event} {done : List Effect}
    (distinct : (s.tasks.map Task.id).Nodup) (h : s.step e = some (s', done)) :
    Transition s e s' done := by
  cases e with
  | start down =>
      simp only [System.step] at h
      split at h
      · next hsup => cases h; exact .call (Or.inl hsup)
      · next hsup => cases h; exact .call (Or.inr hsup)
      · cases h
  | supervise first =>
      exact transition_of_supervise h
  | resume id first clock =>
      obtain ⟨t, ht, hstep⟩ := Option.bind_eq_some_iff.mp h
      obtain ⟨rfl, l, r, htasks⟩ := split_of_task? ht
      exact transition_of_resume htasks distinct hstep
  | answer id answer first clock =>
      obtain ⟨t, ht, hstep⟩ := Option.bind_eq_some_iff.mp h
      obtain ⟨rfl, l, r, htasks⟩ := split_of_task? ht
      exact transition_of_receive htasks distinct hstep
  | update u => cases h; exact .update u
  | shutdown => cases h; exact .shutdown
  | wait time => cases h; exact .wait time

end ClusterWatch.Scheduler

/-
# Runs and what has happened in them

A run is a list of events that lead from one state to another.  What is known of a state is mostly
known from the events that led to it, so an invariant may speak of them too: `run_induction` adds
one event at the end, to a run that is known to be orderly.

`PastStep s₀ es s` points at a step in the run `es` from `s₀` to `s`: what came before it, the step
itself, and what has come since.  `PastLaunch` points at a launch.  A statement on "a launch" and on
what holds until the next one is a statement on all of these.
-/
import ClusterWatch.Proofs.Scheduler.Tasks
import Mathlib.Data.List.Induction

namespace ClusterWatch.Scheduler

def Event.isCall : Event → Bool
  | .start _ => true
  | _ => false

def calls (es : List Event) : Nat := es.countP Event.isCall

@[simp] theorem calls_append (es es' : List Event) : calls (es ++ es') = calls es + calls es' :=
  List.countP_append

theorem calls_singleton (e : Event) : calls [e] = if e.isCall then 1 else 0 := by
  cases e <;> rfl

namespace System

variable {s t u : System} {es es' : List Event} {e : Event} {done more : List Effect}

theorem run_cons (s : System) (e : Event) (es : List Event) :
    s.run (e :: es) = (s.step e).bind fun p => (p.1.run es).map fun q => (q.1, p.2 ++ q.2) := by
  show ((s.step e).bind fun p => (p.1.run es).bind fun q => some (q.1, p.2 ++ q.2)) = _
  congr 1
  funext p
  cases p.1.run es <;> rfl

theorem run_append (s : System) (es es' : List Event) :
    s.run (es ++ es') =
      (s.run es).bind fun p => (p.1.run es').map fun q => (q.1, p.2 ++ q.2) := by
  induction es generalizing s with
  | nil =>
      show s.run es' = (s.run es').map fun q => (q.1, [] ++ q.2)
      simp
  | cons e es ih =>
      rw [List.cons_append, run_cons, run_cons, Option.bind_assoc]
      congr 1
      funext p
      rw [ih, Option.map_bind, Option.bind_map]
      congr 1
      funext q
      simp [Function.comp_def]

theorem run_singleton (s : System) (e : Event) : s.run [e] = s.step e := by
  rw [run_cons]
  cases s.step e with
  | none => rfl
  | some p => simp [run]

theorem run_snoc (h : s.run (es ++ [e]) = some (u, more)) :
    ∃ t done last, s.run es = some (t, done) ∧ t.step e = some (u, last) ∧ more = done ++ last := by
  rw [run_append] at h
  obtain ⟨⟨t, done⟩, hrun, h⟩ := Option.bind_eq_some_iff.mp h
  obtain ⟨⟨u', last⟩, hstep, heq⟩ := Option.map_eq_some_iff.mp h
  rw [run_singleton] at hstep
  cases heq
  exact ⟨t, done, last, hrun, hstep, rfl⟩

/-- What holds at the beginning of a run, and is kept by every step, holds at its end. -/
theorem run_induction {P : List Event → System → List Effect → Prop} (o : s.Orderly)
    (nil : P [] s [])
    (snoc : ∀ es t done e u more, s.run es = some (t, done) → t.Orderly → P es t done →
      t.step e = some (u, more) → Transition t e u more → P (es ++ [e]) u (done ++ more))
    (h : s.run es = some (t, done)) : t.Orderly ∧ P es t done := by
  -- `run` recurs on the first event; the invariant grows at the last one.
  induction es using List.reverseRecOn generalizing t done with
  | nil =>
      cases h
      exact ⟨o, nil⟩
  | append_singleton es e ih =>
      obtain ⟨u, before, last, hrun, hstep, rfl⟩ := run_snoc h
      obtain ⟨ou, hu⟩ := ih hrun
      have tr := Transition.of_step ou.distinct hstep
      exact ⟨tr.orderly ou, snoc es u before e t last hrun ou hu hstep tr⟩

/-- The events `es` lead from `s` to `t`, whatever is done on the way. -/
def Leads (s : System) (es : List Event) (t : System) : Prop := ∃ done, s.run es = some (t, done)

theorem leads_append_iff : s.Leads (es ++ es') u ↔ ∃ t, s.Leads es t ∧ t.Leads es' u := by
  constructor
  · rintro ⟨done, h⟩
    rw [run_append] at h
    obtain ⟨⟨t, first⟩, hrun, h⟩ := Option.bind_eq_some_iff.mp h
    obtain ⟨⟨u', last⟩, hrun', heq⟩ := Option.map_eq_some_iff.mp h
    cases heq
    exact ⟨t, ⟨first, hrun⟩, last, hrun'⟩
  · rintro ⟨t, ⟨first, hrun⟩, last, hrun'⟩
    exact ⟨first ++ last, by rw [run_append, hrun]; simp [hrun']⟩

theorem leads_singleton (h : s.step e = some (t, done)) : s.Leads [e] t :=
  ⟨done, (run_singleton s e).trans h⟩

theorem Leads.induction {P : List Event → System → Prop} (o : s.Orderly) (nil : P [] s)
    (snoc : ∀ es t e u more, s.Leads es t → t.Orderly → P es t → t.step e = some (u, more) →
      Transition t e u more → P (es ++ [e]) u)
    (h : s.Leads es t) : P es t := by
  obtain ⟨done, h⟩ := h
  refine (run_induction (P := fun es t _ => P es t) o nil ?_ h).2
  intro es t done e u more hrun ot ht hstep tr
  exact snoc es t e u more ⟨done, hrun⟩ ot ht hstep tr

theorem Leads.orderly (h : s.Leads es t) (o : s.Orderly) : t.Orderly := by
  obtain ⟨done, h⟩ := h
  exact (run_induction (P := fun _ _ _ => True) o trivial (fun _ _ _ _ _ _ _ _ _ _ _ => trivial)
    h).1

/-- A launch: a step of the event `e` from `s` to `t` that is counted as one. -/
def Launches (s : System) (e : Event) (t : System) : Prop :=
  (∃ done, s.step e = some (t, done)) ∧ t.status.launches = s.status.launches + 1

end System

theorem System.launches_of_pausing {s : System} {expiry : Millis}
    (hsup : s.supervisor = .pausing expiry) (on : s.shutdown = false) (due : expiry ≤ s.now)
    (first : Priority) : s.Launches (.supervise first) s.launched := by
  refine ⟨⟨s.launch.2, ?_⟩, rfl⟩
  show s.supervise first = some s.launch
  simp [System.supervise, hsup, on, due]

theorem TaskStep.launches_eq {s : System} {t : Task} {e : Event} {next : Option Work}
    {status : Status} {log : AnnouncementLog} {done : List Effect}
    (h : TaskStep s t e next status log done) : status.launches = s.status.launches := by
  cases h <;> rfl

/-- A step leaves the number of launches alone, or it is a launch. -/
theorem Transition.launches {s s' : System} {e : Event} {done : List Effect}
    (h : Transition s e s' done) :
    s'.status.launches = s.status.launches ∨
      s' = s.launched ∧
        (s.supervisor = .starting ∨ ∃ expiry, s.supervisor = .pausing expiry ∧ expiry ≤ s.now) := by
  cases h with
  | launch hsup =>
      refine Or.inr ⟨rfl, ?_⟩
      rcases hsup with h | ⟨expiry, h, due, -⟩
      · exact Or.inl h
      · exact Or.inr ⟨expiry, h, due⟩
  | task _ step => exact Or.inl step.launches_eq
  | _ => exact Or.inl rfl

theorem Transition.launches_eq {s s' : System} {e : Event} {done : List Effect}
    (h : Transition s e s' done) (counted : s'.status.launches = s.status.launches + 1) :
    s' = s.launched ∧
      (s.supervisor = .starting ∨ ∃ expiry, s.supervisor = .pausing expiry ∧ expiry ≤ s.now) := by
  refine h.launches.resolve_left ?_
  intro same
  rw [same] at counted
  exact Nat.succ_ne_self _ counted.symm

/-! ## Looking back -/

/-- A step in the run `es` from `s₀` to `s`. -/
structure PastStep (s₀ : System) (es : List Event) (s : System) where
  before : List Event
  event : Event
  after : List Event
  /-- The state in which the step is taken. -/
  origin : System
  /-- The state that it leaves behind. -/
  target : System
  /-- What the step did. -/
  done : List Effect
  /-- What has been done since. -/
  since : List Effect
  events_eq : es = before ++ event :: after
  reached : s₀.Leads before origin
  taken : origin.step event = some (target, done)
  goesOn : target.run after = some (s, since)

namespace PastStep

variable {s₀ s s' : System} {es : List Event} {e : Event} {more : List Effect}

/-- The step that ends a run. -/
def last (reached : s₀.Leads es s) (taken : s.step e = some (s', more)) :
    PastStep s₀ (es ++ [e]) s' where
  before := es
  event := e
  after := []
  origin := s
  target := s'
  done := more
  since := []
  events_eq := rfl
  reached := reached
  taken := taken
  goesOn := rfl

/-- A past step is one of the longer run too. -/
def extend (p : PastStep s₀ es s) (taken : s.step e = some (s', more)) :
    PastStep s₀ (es ++ [e]) s' :=
  { p with
    after := p.after ++ [e]
    since := p.since ++ more
    events_eq := (congrArg (· ++ [e]) p.events_eq).trans (by simp)
    goesOn := by rw [System.run_append, p.goesOn]; simp [System.run_singleton, taken] }

theorem orderly_origin (p : PastStep s₀ es s) (o : s₀.Orderly) : p.origin.Orderly :=
  p.reached.orderly o

theorem transition (p : PastStep s₀ es s) (o : s₀.Orderly) :
    Transition p.origin p.event p.target p.done :=
  .of_step (p.orderly_origin o).distinct p.taken

theorem orderly_target (p : PastStep s₀ es s) (o : s₀.Orderly) : p.target.Orderly :=
  (p.transition o).orderly (p.orderly_origin o)

theorem leads (p : PastStep s₀ es s) : p.target.Leads p.after s := ⟨p.since, p.goesOn⟩

end PastStep

/-- A launch in the run `es` from `s₀` to `s`. -/
structure PastLaunch (s₀ : System) (es : List Event) (s : System) extends PastStep s₀ es s where
  launches : target.status.launches = origin.status.launches + 1

namespace PastLaunch

variable {s₀ s : System} {es : List Event}

/-- The generation that the launch took from the store. -/
def generation (l : PastLaunch s₀ es s) : Generation := l.origin.store.markRunning.1

theorem target_eq (l : PastLaunch s₀ es s) (o : s₀.Orderly) : l.target = l.origin.launched :=
  ((l.transition o).launches_eq l.launches).1

end PastLaunch

theorem not_starting {s t : System} {es : List Event} (o : s.Orderly)
    (start : s.supervisor ≠ .starting) (h : s.Leads es t) (hnone : calls es = 0) :
    t.supervisor ≠ .starting := by
  refine h.induction (P := fun es t => calls es = 0 → t.supervisor ≠ .starting) o
    (fun _ => start) ?_ hnone
  intro es t e u more _ _ ht _ tr hnone
  rw [calls_append] at hnone
  have before := ht (by omega)
  cases tr with
  | call => simp [calls_singleton, Event.isCall] at hnone
  | launch | notice | join | pause | terminate => intro heq; cases heq
  | task | update | shutdown | wait => exact before

/-- A launch that follows another one of the same call comes at the end of a pause. -/
theorem PastLaunch.pausing_of_launches {s₀ s s' : System} {es : List Event} {e : Event}
    (l : PastLaunch s₀ es s) (o : s₀.Orderly) (hnone : calls l.after = 0)
    (next : s.Launches e s') : ∃ expiry, s.supervisor = .pausing expiry ∧ expiry ≤ s.now := by
  obtain ⟨⟨done, hstep⟩, counted⟩ := next
  have os := l.leads.orderly (l.orderly_target o)
  have running : l.target.supervisor ≠ .starting := by
    rw [l.target_eq o]
    intro heq
    cases heq
  have off := not_starting (l.orderly_target o) running l.leads hnone
  have tr := Transition.of_step os.distinct hstep
  exact (tr.launches_eq counted).2.resolve_left off

/-! ## A run with a restart -/

/-- A service with one recipient and a check every minute. -/
def serviceAtRest : System := .new (.new ⟨"token", seconds 60, [1], "brief"⟩) .empty true

/-- From a launch to the end of the pause that follows it: the interval is changed while a check is
under way, the check fails, and both tasks leave. -/
def intervalChange : List Event :=
  [.resume 1 .work 0, .update { intervalSeconds := some 120 }, .resume 0 .work 0,
    .answer 1 (.usage (.error (.other "unreachable"))) .work 0, .resume 1 .work 0,
    .supervise .work, .supervise .work, .supervise .work, .supervise .work, .wait restartPause]

/-- A call of the scheduler, a launch, and all until the next one. -/
def restart : List Event := [.start false] ++ .supervise .work :: intervalChange

end ClusterWatch.Scheduler

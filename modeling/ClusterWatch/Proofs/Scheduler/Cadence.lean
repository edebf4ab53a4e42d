/-
# The cadence of the checks

The ticker of a launch is set before its first check, and that check begins at once.  From then on
a check begins when the tick is due and the check before has ended, whichever comes later, and
taking the tick sets the next one.  `Cadence` says just this of the checks of a launch and of the
ticker that the next one waits for.  What is known of the times at which checks begin is read off
it by induction: they lie an interval apart but for the tolerance of a late tick, and exactly an
interval apart as long as no check takes that long.

In the system time passes by events of any length, so that nothing is kept waiting is an assumption
on runs: no task could have gone on before the time was over (`System.Prompt`).
-/
import ClusterWatch.Proofs.Scheduler.Generations
import ClusterWatch.Proofs.Settings.Operations
import Mathlib.Data.List.Chain

namespace ClusterWatch

namespace Ticker

theorem le_due_tick (t : Ticker) (now : Millis) :
    now + t.period ≤ (t.tick now).due + tolerance := by
  by_cases late : t.due + tolerance < now
  · simp only [tick, if_pos late]
    exact Nat.le_add_right _ _
  · simp only [tick, if_neg late]
    lia

theorem due_tick_due (t : Ticker) : (t.tick t.due).due = t.due + t.period := by
  simp [tick]

end Ticker

namespace Scheduler

/-! ## The checks of a run -/

/-- A check: when it asked its first question, and when it ended if it has. -/
structure Span where
  began : Millis
  ended : Option Millis
deriving DecidableEq, Repr

/-- The checks, the latest first, after an effect at the time `now`. -/
def note (now : Millis) (spans : List Span) : Effect → List Span
  | .asked _ .collect => ⟨now, none⟩ :: spans
  | .recorded _ | .abandoned _ | .collapsed _ =>
      spans.modifyHead fun span => { span with ended := some now }
  | _ => spans

/-- The checks, the latest first, after a run that `spans` came before. -/
def System.spansFrom (spans : List Span) (s : System) : List Event → List Span
  | [] => spans
  | e :: es =>
    match s.step e with
    | some (s', done) => s'.spansFrom (done.foldl (note s.now) spans) es
    | none => spans

/-- The checks that a run begins, in their order. -/
def System.spans (s : System) (es : List Event) : List Span := (s.spansFrom [] es).reverse

section Spans

variable {s t u : System} {es : List Event} {e : Event} {done more : List Effect}

theorem spansFrom_snoc (spans : List Span) (h : s.Leads es t)
    (taken : t.step e = some (u, more)) :
    s.spansFrom spans (es ++ [e]) = more.foldl (note t.now) (s.spansFrom spans es) := by
  induction es generalizing s spans with
  | nil =>
      obtain ⟨_, h⟩ := h
      cases h
      simp [System.spansFrom, taken]
  | cons e' es ih =>
      obtain ⟨v, ⟨first, hfirst⟩, rest⟩ := (@System.leads_append_iff s t [e'] es).mp h
      rw [System.run_singleton] at hfirst
      simp only [List.cons_append, System.spansFrom, hfirst]
      exact ih _ rest

theorem length_note (now : Millis) (spans : List Span) (done : List Effect) :
    (done.foldl (note now) spans).length = spans.length + begun done := by
  induction done generalizing spans with
  | nil => rfl
  | cons effect done ih =>
      have one : (note now spans effect).length = spans.length + begun [effect] := by
        cases effect with
        | asked _ call => cases call <;> simp [note, begun, Effect.isBeginning]
        | _ => simp [note, begun, Effect.isBeginning]
      rw [List.foldl_cons, ih, one, Nat.add_assoc, ← begun_append, List.singleton_append]

theorem length_spans (o : s.Orderly) (h : s.run es = some (t, done)) :
    (s.spans es).length = begun done := by
  rw [System.spans, List.length_reverse]
  refine (System.run_induction
    (P := fun es _ done => (s.spansFrom [] es).length = begun done) o rfl ?_ h).2
  intro es t done e u more reached _ before taken _
  rw [spansFrom_snoc [] ⟨done, reached⟩ taken, length_note, before, begun_append]

end Spans

/-! ## Cadence -/

/-- The checks `spans`, the latest first, of a launch at the time `launch`, and the ticker that the
next one waits for: the first begins at once, and every other when the tick is due and the one
before has ended. -/
inductive Cadence (launch interval : Millis) : List Span → Ticker → Prop
  | first (ended : Option Millis) :
      Cadence launch interval [⟨launch, ended⟩] ⟨launch + interval, interval⟩
  | next {began ended : Millis} {earlier : List Span} {ticker : Ticker} (ended' : Option Millis) :
      Cadence launch interval (⟨began, some ended⟩ :: earlier) ticker →
      Cadence launch interval
        (⟨max ticker.due ended, ended'⟩ :: ⟨began, some ended⟩ :: earlier)
        (ticker.tick (max ticker.due ended))

/-- A check has ended before a later one begins, and the later one begins an interval after it, but
for the tolerance of a late tick. -/
def Span.Precedes (interval : Millis) (earlier later : Span) : Prop :=
  (∃ ended, earlier.ended = some ended ∧ ended ≤ later.began) ∧
    earlier.began + interval ≤ later.began + Ticker.tolerance

namespace Cadence

variable {launch interval : Millis} {spans earlier : List Span} {span : Span} {ticker : Ticker}

theorem period (h : Cadence launch interval spans ticker) : ticker.period = interval := by
  induction h with
  | first => rfl
  | next _ _ ih => exact ih

theorem with_ended {began : Millis} {ended : Option Millis}
    (h : Cadence launch interval (⟨began, ended⟩ :: earlier) ticker) (ended' : Option Millis) :
    Cadence launch interval (⟨began, ended'⟩ :: earlier) ticker := by
  cases h with
  | first => exact .first ended'
  | next _ h => exact .next ended' h

/-- The next tick is due an interval after the latest check began, but for the tolerance. -/
theorem le_due (h : Cadence launch interval (span :: earlier) ticker) :
    span.began + interval ≤ ticker.due + Ticker.tolerance := by
  cases h with
  | first => exact Nat.le_add_right _ _
  | @next _ ended _ ticker _ h =>
      rw [← h.period]
      exact ticker.le_due_tick (max ticker.due ended)

theorem isChain (h : Cadence launch interval spans ticker) :
    spans.IsChain fun later earlier => earlier.Precedes interval later := by
  induction h with
  | first => exact List.IsChain.singleton _
  | @next began ended earlier ticker _ h ih =>
      refine List.IsChain.cons_cons ⟨⟨ended, rfl, Nat.le_max_right _ _⟩, ?_⟩ ih
      exact Nat.le_trans h.le_due (Nat.add_le_add_right (Nat.le_max_left _ _) _)

theorem began_getLast (h : Cadence launch interval spans ticker) :
    ∀ first ∈ spans.getLast?, first.began = launch := by
  induction h with
  | first =>
      intro first hfirst
      cases hfirst
      rfl
  | next _ _ ih =>
      intro first hfirst
      rw [List.getLast?_cons_cons] at hfirst
      exact ih first hfirst

/-- As long as no check takes an interval, every tick is taken when it is due. -/
theorem exact_of_short {now : Millis} (h : Cadence launch interval spans ticker)
    (short : ∀ span ∈ spans, span.ended.getD now < span.began + interval) :
    (∀ span ∈ spans.head?, span.began + interval = ticker.due) ∧
      ticker.due = launch + spans.length * interval ∧
      spans.reverse.map Span.began =
        (List.range spans.length).map fun k => launch + k * interval := by
  induction h with
  | first => simp
  | @next began ended earlier ticker ended' h ih =>
      obtain ⟨head, due, begans⟩ := ih fun span hspan => short span (List.mem_cons_of_mem _ hspan)
      have onTime : max ticker.due ended = ticker.due := by
        refine Nat.max_eq_left ?_
        rw [← head _ rfl]
        exact Nat.le_of_lt (short ⟨began, some ended⟩ (by simp))
      have next : (ticker.tick ticker.due).due = ticker.due + interval := by
        rw [ticker.due_tick_due, h.period]
      rw [onTime]
      refine ⟨?_, ?_, ?_⟩
      · intro span hspan
        cases hspan
        exact next.symm
      · rw [next, due, @List.length_cons _ _ (_ :: earlier), Nat.succ_mul, Nat.add_assoc]
      · rw [List.reverse_cons, List.map_append, begans, @List.length_cons _ _ (_ :: earlier),
          List.range_succ, List.map_append, due]
        rfl

end Cadence

/-! ## A launch that nothing disturbs -/

/-- Whether an event leaves the settings alone and does not shut the service down. -/
def System.isQuiet (s : System) : Event → Bool
  | .shutdown => false
  | .update u => !(s.store.apply u).1
  | _ => true

/-- Nothing is kept waiting for some time: no task could go on before it is over. -/
def System.Prompt (s : System) (time : Millis) : Prop :=
  ∀ t ∈ s.tasks, ∀ elapsed < time, ∀ first clock,
    { s with now := s.now + elapsed }.resume t first clock = none

/-- Whether a task has nothing to do before a time that lies ahead. -/
def System.rests (s : System) (t : Task) (expiry : Millis) : Bool :=
  match t.work with
  | .freshSweep | .freshCheck => false
  | .sweep ticker | .idle ticker _ => !s.mustEnd t && decide (expiry ≤ ticker.due)
  | .check .. => !s.shutdown

/-- The latest launch has taken the generation `g`, which is not cancelled, and checks are to be
made in the interval `interval`. -/
structure System.Undisturbed (s : System) (g : Generation) (interval : Millis) : Prop where
  watching : ∃ ids, s.supervisor = .watching g ids
  on : s.shutdown = false
  current : s.store.isCancelled g = false
  interval : s.store.settings.interval = interval
  generation : ∀ t ∈ s.tasks, t.generation = g

section Step

variable {s s' : System} {l r : List Task} {t : Task} {e : Event} {next : Option Work}
  {status : Status} {log : AnnouncementLog} {done more : List Effect} {g : Generation}
  {launch interval : Millis} {spans : List Span}

theorem mem_edit_iff {a : Task} :
    a ∈ edit l t next r ↔ a ∈ l ∨ a ∈ r ∨ ∃ work, next = some work ∧ a = { t with work } := by
  cases next with
  | none => simp [edit]
  | some work =>
      simp only [edit, Option.map_some, Option.toList_some, List.mem_append, List.mem_singleton,
        Option.some.injEq, exists_eq_left']
      exact or_congr_right Or.comm

theorem System.resume_eq_none_iff (s : System) (t : Task) (first : Priority) (clock : Instant) :
    s.resume t first clock = none ↔ s.rests t (s.now + 1) = true := by
  cases hw : t.work with
  | freshSweep | freshCheck =>
      simp only [System.resume, System.rests, hw]
      split <;> simp
  | sweep ticker | idle ticker =>
      simp only [System.resume, System.rests, hw, Bool.and_eq_true, Bool.not_eq_true',
        decide_eq_true_eq]
      split
      · next must => simp [must]
      · next stay =>
        split
        · next due =>
          have dueNow : ticker.due ≤ s.now := of_decide_eq_true due
          exact iff_of_false (by simp) fun rest => Nat.not_lt_of_le dueNow rest.2
        · next early =>
          have later : s.now < ticker.due := Nat.lt_of_not_le (mt decide_eq_true early)
          exact iff_of_true rfl ⟨by simpa using stay, later⟩
  | check => simp [System.resume, System.rests, hw]

theorem System.rests_mono {earlier later : Millis} (le : earlier ≤ later)
    (h : s.rests t later = true) : s.rests t earlier = true := by
  unfold System.rests at h ⊢
  split at h
  · exact h
  · exact h
  · simp only [Bool.and_eq_true, decide_eq_true_eq] at h ⊢
    exact ⟨h.1, Nat.le_trans le h.2⟩
  · simp only [Bool.and_eq_true, decide_eq_true_eq] at h ⊢
    exact ⟨h.1, Nat.le_trans le h.2⟩
  · exact h

/-- Nothing is kept waiting for some time if and only if every task rests until it is over. -/
theorem System.prompt_iff {time : Millis} :
    s.Prompt time ↔ time = 0 ∨ ∀ t ∈ s.tasks, s.rests t (s.now + time) = true := by
  constructor
  · intro prompt
    cases time with
    | zero => exact Or.inl rfl
    | succ before =>
        refine Or.inr fun t ht => ?_
        have last := prompt t ht before (Nat.lt_succ_self before) .work 0
        exact (System.resume_eq_none_iff _ t .work 0).mp last
  · rintro (rfl | rests) t ht elapsed within first clock
    · cases within
    · refine (System.resume_eq_none_iff _ t first clock).mpr ?_
      exact System.rests_mono (Nat.add_le_add_left within s.now) (rests t ht)

instance (s : System) (time : Millis) : Decidable (s.Prompt time) :=
  decidable_of_iff _ System.prompt_iff.symm

/-- While nothing disturbs the launch, a step is that of a task, or it lets time pass, or it changes
nothing. -/
theorem Transition.of_undisturbed (h : Transition s e s' done) (u : s.Undisturbed g interval)
    (quiet : s.isQuiet e = true) :
    (∃ l r t next status log, s.tasks = l ++ t :: r ∧ s.mustEnd t = false ∧
        TaskStep s t e next status log done ∧
        s' = { s with tasks := edit l t next r, status, log }) ∨
      (∃ time, e = .wait time ∧ s' = { s with now := s.now + time } ∧ done = []) ∨
      s' = s ∧ done = [] := by
  obtain ⟨ids, watching⟩ := u.watching
  cases h with
  | call hsup => simp [watching] at hsup
  | launch hsup => simp [watching] at hsup
  | notice hsup signal =>
      cases watching.symm.trans hsup
      simp [u.on, u.current] at signal
  | join hsup | pause hsup => simp [watching] at hsup
  | terminate hsup => simp [watching] at hsup
  | @task l r t e next status log done htasks step =>
      have stay : s.mustEnd t = false := by
        rw [System.mustEnd, u.on, u.generation t (mem_of_split htasks), u.current]
        rfl
      exact Or.inl ⟨l, r, t, next, status, log, htasks, stay, step, rfl⟩
  | update v =>
      rcases s.store.apply_cases v with ⟨-, same⟩ | ⟨changed, -⟩ | ⟨changed, -⟩
      · rw [same]
        exact Or.inr (Or.inr ⟨rfl, rfl⟩)
      · simp [System.isQuiet, changed] at quiet
      · simp [System.isQuiet, changed] at quiet
  | shutdown => cases quiet
  | wait time => exact Or.inr (Or.inl ⟨time, rfl, rfl, rfl⟩)

theorem Transition.undisturbed (h : Transition s e s' done) (u : s.Undisturbed g interval)
    (quiet : s.isQuiet e = true) : s'.Undisturbed g interval := by
  rcases h.of_undisturbed u quiet with
    ⟨l, r, t, next, _, _, htasks, -, -, rfl⟩ | ⟨_, -, rfl, -⟩ | ⟨rfl, -⟩
  · refine ⟨u.watching, u.on, u.current, u.interval, ?_⟩
    intro a ha
    rcases mem_edit ha with old | ⟨work, -, rfl⟩
    · exact u.generation a (htasks ▸ old)
    · exact u.generation t (mem_of_split htasks)
  · exact ⟨u.watching, u.on, u.current, u.interval, u.generation⟩
  · exact u

/-! ## One step keeps the cadence -/

/-- What a task that makes checks has done, and what it waits for, are in time: the first check is
still to come at the launch, and no later one is overdue. -/
def Work.InTime (launch interval now : Millis) (spans : List Span) : Work → Prop
  | .freshSweep | .sweep _ => True
  | .freshCheck => spans = [] ∧ now = launch
  | .idle ticker known =>
      known = interval ∧ Cadence launch interval spans ticker ∧
        ∃ began ended earlier, spans = ⟨began, some ended⟩ :: earlier ∧
          ended ≤ now ∧ now ≤ max ticker.due ended
  | .check ticker known _ =>
      known = interval ∧ Cadence launch interval spans ticker ∧
        ∃ began earlier, spans = ⟨began, none⟩ :: earlier

theorem mustEnd_of_signal (h : s.shutdown = true ∨ s.store.isCancelled t.generation = true) :
    s.mustEnd t = true := by
  simpa [System.mustEnd] using h

theorem inTime_of_sweep {now : Millis} {work : Work} (h : work.kind = .sweep) :
    work.InTime launch interval now spans := by
  cases work with
  | freshSweep | sweep => trivial
  | freshCheck | idle | check => cases h

theorem kind_of_isUnderWay {work : Work} (h : work.isUnderWay = true) : work.kind = .check := by
  cases work with
  | check => rfl
  | freshSweep | sweep | freshCheck | idle => cases h

theorem note_question {state : Check.State} (now : Millis) (spans : List Span) (id : TaskId)
    (h : state ≠ .collecting) :
    (state.call?.map (Effect.asked id)).toList.foldl (note now) spans = spans := by
  cases state with
  | collecting => exact absurd rfl h
  | recommending | sending | finished => rfl

theorem new_eq (now : Millis) (h : Settings.Bounded interval) :
    Ticker.new now interval = ⟨now + interval, interval⟩ :=
  congrArg (fun period => Ticker.mk (now + period) period) (period_new now h)

theorem cadence_of_underWay {now : Millis} {work : Work} (underWay : work.isUnderWay = true)
    (h : work.InTime launch interval now spans) :
    ∃ ticker began earlier, spans = ⟨began, none⟩ :: earlier ∧
      Cadence launch interval (⟨began, none⟩ :: earlier) ticker := by
  cases work with
  | check ticker =>
      obtain ⟨-, cadence, began, earlier, rfl⟩ := h
      exact ⟨ticker, began, earlier, rfl, cadence⟩
  | freshSweep | sweep | freshCheck | idle => cases underWay

/-- A task that makes checks goes on in time, and the checks keep the cadence even where it ends. -/
theorem TaskStep.inTime (h : TaskStep s t e next status log done) (stay : s.mustEnd t = false)
    (known : s.store.settings.interval = interval) (bounded : Settings.Bounded interval)
    (kind : t.work.kind = .check) (before : t.work.InTime launch interval s.now spans) :
    ∃ ticker, Cadence launch interval (done.foldl (note s.now) spans) ticker ∧
      ∀ work, next = some work →
        work.InTime launch interval s.now (done.foldl (note s.now) spans) := by
  cases h with
  | leave _ signal => cases stay.symm.trans (mustEnd_of_signal signal)
  | arm hw | sweep hw => rw [hw] at kind; cases kind
  | begin hw =>
      rw [hw] at before
      obtain ⟨rfl, now⟩ := before
      rw [known, new_eq s.now bounded, now]
      have cadence : Cadence launch interval _ _ := .first none
      refine ⟨_, cadence, ?_⟩
      intro work heq
      cases heq
      exact ⟨rfl, cadence, launch, [], rfl⟩
  | @tick ticker _ _ _ hw _ due =>
      rw [hw] at before
      obtain ⟨rfl, cadence, began, ended, earlier, rfl, ended_le, now_le⟩ := before
      have dueNow : ticker.due ≤ s.now := of_decide_eq_true due
      have now : s.now = max ticker.due ended :=
        Nat.le_antisymm now_le (Nat.max_le.mpr ⟨dueNow, ended_le⟩)
      rw [nextTicker, if_pos known, known, now]
      have cadence' := Cadence.next none cadence
      refine ⟨_, cadence', ?_⟩
      intro work heq
      cases heq
      exact ⟨rfl, cadence', _, _, rfl⟩
  | abandon _ _ down => cases stay.symm.trans (mustEnd_of_signal (Or.inl down))
  | collapse underWay =>
      obtain ⟨ticker, began, earlier, rfl, cadence⟩ := cadence_of_underWay underWay before
      exact ⟨ticker, cadence.with_ended _, fun _ hnone => by cases hnone⟩
  | proceed hw advance =>
      rw [hw] at before
      rw [note_question _ _ _ (Check.State.Advance.of_advance? advance).ne_collecting]
      refine ⟨_, before.2.1, ?_⟩
      intro work heq
      cases heq
      exact before
  | finish hw advance =>
      rw [hw] at before
      obtain ⟨rfl, cadence, began, earlier, rfl⟩ := before
      have cadence' := cadence.with_ended (some s.now)
      refine ⟨_, cadence', ?_⟩
      intro work heq
      cases heq
      exact ⟨rfl, cadence', began, s.now, earlier, rfl, Nat.le_refl _, Nat.le_max_right _ _⟩

theorem inTime_wait {time : Millis} (ht : t ∈ s.tasks) (prompt : s.Prompt time)
    (before : t.work.InTime launch interval s.now spans) :
    t.work.InTime launch interval (s.now + time) spans := by
  rcases System.prompt_iff.mp prompt with rfl | rests
  · exact before
  have rest := rests t ht
  cases hw : t.work with
  | freshSweep | sweep => trivial
  | freshCheck => simp [System.rests, hw] at rest
  | idle ticker =>
      rw [hw] at before
      obtain ⟨rfl, cadence, began, ended, earlier, rfl, ended_le, -⟩ := before
      simp only [System.rests, hw, Bool.and_eq_true, decide_eq_true_eq] at rest
      exact ⟨rfl, cadence, began, ended, earlier, rfl, Nat.le_trans ended_le (Nat.le_add_right _ _),
        Nat.le_trans rest.2 (Nat.le_max_left _ _)⟩
  | check =>
      rw [hw] at before
      exact before

theorem TaskStep.collapsed_of_none (h : TaskStep s t e none status log done)
    (stay : s.mustEnd t = false) : 0 < collapsed done := by
  cases h with
  | leave _ signal => cases stay.symm.trans (mustEnd_of_signal signal)
  | abandon _ _ down => cases stay.symm.trans (mustEnd_of_signal (Or.inl down))
  | collapse => exact Nat.one_pos

theorem TaskStep.note_of_sweep (h : TaskStep s t e next status log done)
    (kind : t.work.kind = .sweep) : done.foldl (note s.now) spans = spans := by
  cases h with
  | leave | arm | sweep => rfl
  | begin hw | tick hw | proceed hw | finish hw => rw [hw] at kind; cases kind
  | abandon _ underWay | collapse underWay =>
      cases kind.symm.trans (kind_of_isUnderWay underWay)

theorem kind_of_ne (o : s.Orderly) (htasks : s.tasks = l ++ t :: r) (kind : t.work.kind = .check)
    {a : Task} (ha : a ∈ l ∨ a ∈ r) : a.work.kind = .sweep := by
  have one := o.live_le_one .check
  simp only [System.live, System.count, htasks, List.countP_append, List.countP_cons, kind,
    decide_true, if_true] at one
  have hnone : (l ++ r).countP (fun a => decide (a.work.kind = .check)) = 0 := by
    rw [List.countP_append]
    omega
  have other := List.countP_eq_zero.mp hnone a (List.mem_append.mpr ha)
  cases hk : a.work.kind with
  | sweep => rfl
  | check => simp [hk] at other

/-- The checks of a launch keep the cadence: the task that makes them does so in time, or it has
collapsed. -/
structure Paced (launch interval : Millis) (s : System) (spans : List Span)
    (done : List Effect) : Prop where
  inTime : ∀ t ∈ s.tasks, t.work.InTime launch interval s.now spans
  alive : (∃ t ∈ s.tasks, t.work.kind = .check) ∨
    0 < collapsed done ∧ ∃ ticker, Cadence launch interval spans ticker

theorem TaskStep.paced (h : TaskStep s t e next status log more) (o : s.Orderly)
    (htasks : s.tasks = l ++ t :: r) (stay : s.mustEnd t = false)
    (known : s.store.settings.interval = interval) (bounded : Settings.Bounded interval)
    (p : Paced launch interval s spans done) :
    Paced launch interval { s with tasks := edit l t next r, status, log }
      (more.foldl (note s.now) spans) (done ++ more) := by
  have mem := mem_of_split htasks
  cases kind : t.work.kind with
  | sweep =>
      rw [h.note_of_sweep kind]
      refine ⟨?_, ?_⟩
      · intro a ha
        rcases mem_edit ha with old | ⟨work, rfl, rfl⟩
        · exact p.inTime a (htasks ▸ old)
        · exact inTime_of_sweep (h.kind.trans kind)
      · rcases p.alive with ⟨a, ha, hkind⟩ | ⟨hsome, cadence⟩
        · refine Or.inl ⟨a, mem_edit_iff.mpr ?_, hkind⟩
          rw [htasks, List.mem_append, List.mem_cons] at ha
          rcases ha with left | rfl | right
          · exact Or.inl left
          · cases kind.symm.trans hkind
          · exact Or.inr (Or.inl right)
        · exact Or.inr ⟨by rw [collapsed_append]; omega, cadence⟩
  | check =>
      obtain ⟨ticker, cadence, goesOn⟩ := h.inTime stay known bounded kind (p.inTime t mem)
      refine ⟨?_, ?_⟩
      · intro a ha
        rcases mem_edit_iff.mp ha with left | right | ⟨work, rfl, rfl⟩
        · exact inTime_of_sweep (kind_of_ne o htasks kind (Or.inl left))
        · exact inTime_of_sweep (kind_of_ne o htasks kind (Or.inr right))
        · exact goesOn work rfl
      · cases next with
        | some work =>
            refine Or.inl ⟨{ t with work }, ?_, h.kind.trans kind⟩
            exact mem_edit_iff.mpr (Or.inr (Or.inr ⟨work, rfl, rfl⟩))
        | none =>
            have hsome := h.collapsed_of_none stay
            exact Or.inr ⟨by rw [collapsed_append]; omega, ticker, cadence⟩

theorem Transition.paced (h : Transition s e s' more) (o : s.Orderly)
    (u : s.Undisturbed g interval) (quiet : s.isQuiet e = true)
    (prompt : ∀ time, e = .wait time → s.Prompt time) (bounded : Settings.Bounded interval)
    (p : Paced launch interval s spans done) :
    Paced launch interval s' (more.foldl (note s.now) spans) (done ++ more) := by
  rcases h.of_undisturbed u quiet with
    ⟨l, r, t, next, status, log, htasks, stay, step, rfl⟩ | ⟨time, rfl, rfl, rfl⟩ | ⟨rfl, rfl⟩
  · exact step.paced o htasks stay u.interval bounded p
  · refine ⟨?_, by simpa using p.alive⟩
    intro t ht
    exact inTime_wait ht (prompt time rfl) (p.inTime t ht)
  · simpa using p

end Step

/-! ## A launch keeps the cadence -/

/-- Until now no event of the run has disturbed the launch, and nothing was kept waiting. -/
structure Untroubled (s : System) (es : List Event) (t : System) : Prop where
  quiet : ∀ q : PastStep s es t, q.origin.isQuiet q.event = true
  prompt : ∀ q : PastStep s es t, ∀ time, q.event = .wait time → q.origin.Prompt time

theorem PastStep.of_cons {s t u : System} {es : List Event} {e : Event} {more : List Effect}
    (taken : s.step e = some (t, more)) (q : PastStep s (e :: es) u) :
    (q.origin = s ∧ q.event = e) ∨
      ∃ q' : PastStep t es u, q'.origin = q.origin ∧ q'.event = q.event := by
  obtain ⟨before, event, after, origin, target, done, since, events, reached, step, goesOn⟩ := q
  cases before with
  | nil =>
      obtain ⟨_, reached⟩ := reached
      cases events
      cases reached
      exact Or.inl ⟨rfl, rfl⟩
  | cons first before =>
      cases events
      obtain ⟨v, ⟨_, hfirst⟩, reached⟩ := (@System.leads_append_iff s origin [e] before).mp reached
      rw [System.run_singleton, taken] at hfirst
      cases hfirst
      exact Or.inr ⟨⟨before, event, after, origin, target, done, since, rfl, reached, step, goesOn⟩,
        rfl, rfl⟩

/-- Whether a run is untroubled, looked at step by step. -/
def System.isUntroubled (s : System) : List Event → Bool
  | [] => true
  | e :: es =>
    s.isQuiet e &&
      (match e with
      | .wait time => decide (s.Prompt time)
      | _ => true) &&
      match s.step e with
      | some (s', _) => s'.isUntroubled es
      | none => false

theorem untroubled_of_isUntroubled {s u : System} {es : List Event}
    (h : s.isUntroubled es = true) : Untroubled s es u := by
  induction es generalizing s with
  | nil =>
      exact ⟨fun q => absurd q.events_eq (by simp), fun q => absurd q.events_eq (by simp)⟩
  | cons e es ih =>
      simp only [System.isUntroubled, Bool.and_eq_true] at h
      obtain ⟨⟨quiet, prompt⟩, rest⟩ := h
      cases taken : s.step e with
      | none => rw [taken] at rest; cases rest
      | some p =>
          rw [taken] at rest
          have later := ih rest
          refine ⟨?_, ?_⟩
          · intro q
            rcases q.of_cons taken with ⟨hs, he⟩ | ⟨q', hs, he⟩
            · rw [hs, he]; exact quiet
            · rw [← hs, ← he]; exact later.quiet q'
          · intro q time htime
            rcases q.of_cons taken with ⟨hs, he⟩ | ⟨q', hs, he⟩
            · rw [he] at htime
              rw [hs]
              subst htime
              exact of_decide_eq_true prompt
            · rw [← hs]
              exact later.prompt q' time (he.trans htime)

section Launch

variable {s₀ s t u : System} {es : List Event} {e : Event} {done more : List Effect}
  {interval : Millis}

theorem Untroubled.before (h : Untroubled s (es ++ [e]) u) (taken : t.step e = some (u, more)) :
    Untroubled s es t where
  quiet q := h.quiet (q.extend taken)
  prompt q := h.prompt (q.extend taken)

theorem launch_untroubled (store : s.store.Sound) (on : s.shutdown = false) (hnone : s.tasks = []) :
    s.launched.Undisturbed s.store.generation s.store.settings.interval ∧
      Paced s.now s.store.settings.interval s.launched [] [] := by
  refine ⟨⟨⟨_, rfl⟩, on, store.current, rfl, ?_⟩, ?_, Or.inl ?_⟩
  · simp [System.launched, hnone, Store.markRunning]
  · simp [System.launched, hnone, Work.InTime]
  · simp [System.launched, hnone, Work.kind]

/-- The checks since a launch keep the cadence. -/
theorem PastLaunch.paced (l : PastLaunch s₀ es s) (o : s₀.Orderly) (c : s₀.Current)
    (on : l.target.shutdown = false) (h : Untroubled l.target l.after s) :
    Paced l.origin.now l.origin.store.settings.interval s
      (l.target.spansFrom [] l.after) l.since := by
  have store := (l.reached.current o c).store
  have target := l.target_eq o
  have hnone : l.origin.tasks = [] := by
    rcases ((l.transition o).launches_eq l.launches).2 with hsup | ⟨_, hsup, -⟩
    · exact (l.orderly_origin o).tasks_eq_nil (by rw [hsup]; rfl)
    · exact (l.orderly_origin o).tasks_eq_nil (by rw [hsup]; rfl)
  have start := launch_untroubled store (by rw [← on, target]; rfl) hnone
  rw [← target] at start
  refine ((System.run_induction
    (P := fun es t done => Untroubled l.target es t →
      t.Undisturbed l.origin.store.generation l.origin.store.settings.interval ∧
        Paced l.origin.now l.origin.store.settings.interval t (l.target.spansFrom [] es) done)
    (l.orderly_target o) (fun _ => start) ?_ l.goesOn).2 h).2
  intro es t done e u more reached ot before taken tr h
  obtain ⟨undisturbed, paced⟩ := before (h.before taken)
  let last := PastStep.last ⟨done, reached⟩ taken
  have quiet := h.quiet last
  rw [spansFrom_snoc [] ⟨done, reached⟩ taken]
  exact ⟨tr.undisturbed undisturbed quiet,
    tr.paced ot undisturbed quiet (h.prompt last) store.interval paced⟩

end Launch

section Paced

variable {s : System} {done : List Effect} {launch interval : Millis} {spans : List Span}

theorem Paced.cadence (p : Paced launch interval s spans done) :
    (spans = [] ∧ s.now = launch) ∨ ∃ ticker, Cadence launch interval spans ticker := by
  rcases p.alive with ⟨t, ht, kind⟩ | ⟨-, cadence⟩
  · have inTime := p.inTime t ht
    match hw : t.work with
    | .freshSweep | .sweep _ => rw [hw] at kind; cases kind
    | .freshCheck => rw [hw] at inTime; exact Or.inl inTime
    | .idle .. | .check .. => rw [hw] at inTime; exact Or.inr ⟨_, inTime.2.1⟩
  · exact Or.inr cadence

theorem Paced.now_le_of_short (p : Paced launch interval s spans done)
    (short : ∀ span ∈ spans, span.ended.getD s.now < span.began + interval)
    (whole : collapsed done = 0) : s.now ≤ launch + spans.length * interval := by
  obtain ⟨t, ht, kind⟩ := p.alive.resolve_right fun h => by omega
  have inTime := p.inTime t ht
  match hw : t.work with
  | .freshSweep | .sweep _ => rw [hw] at kind; cases kind
  | .freshCheck =>
      rw [hw] at inTime
      rw [inTime.2]
      exact Nat.le_add_right _ _
  | .idle ticker _ =>
      rw [hw] at inTime
      obtain ⟨-, cadence, began, ended, earlier, rfl, -, now_le⟩ := inTime
      obtain ⟨head, due, -⟩ := cadence.exact_of_short short
      have ended_lt : ended < began + interval := short _ List.mem_cons_self
      have head_due : began + interval = ticker.due := head _ rfl
      rw [← due]
      lia
  | .check ticker _ _ =>
      rw [hw] at inTime
      obtain ⟨-, cadence, began, earlier, rfl⟩ := inTime
      obtain ⟨head, due, -⟩ := cadence.exact_of_short short
      have now_lt : s.now < began + interval := short _ List.mem_cons_self
      have head_due : began + interval = ticker.due := head _ rfl
      rw [← due]
      lia

end Paced

/-- Of the checks that begin after a launch, as long as no setting changes, the service is not shut
down, and nothing is kept waiting:

* The first begins at the launch.
* Each has ended before the next one begins, and the next one begins an interval after it, but for
  the tolerance of a late tick.
* If none takes an interval, they begin exactly one interval after the other, counted from the
  launch, and as long as none collapses none of them is left out. -/
theorem checks_keep_cadence {initial : Settings} {ops : List Store.Operation}
    {log : AnnouncementLog} {deduplicate : Bool} {es : List Event} {s : System}
    (l : PastLaunch (System.new ((Store.new initial).replay ops) log deduplicate) es s)
    (on : l.target.shutdown = false) (untroubled : Untroubled l.target l.after s) :
    let launch := l.origin.now
    let interval := l.origin.store.settings.interval
    let spans := l.target.spans l.after
    spans.length = begun l.since ∧
      (∀ first ∈ spans.head?, first.began = launch) ∧
      (launch < s.now → spans ≠ []) ∧
      spans.IsChain (Span.Precedes interval) ∧
      ((∀ span ∈ spans, span.ended.getD s.now < span.began + interval) →
        spans.map Span.began = (List.range spans.length).map (fun k => launch + k * interval) ∧
          (collapsed l.since = 0 →
            ∀ k, launch + k * interval < s.now → k < spans.length)) := by
  intro launch interval spans
  have o := orderly_new ((Store.new initial).replay ops) log deduplicate
  have sound : ((Store.new initial).replay ops).Sound :=
    Store.replay_induction (Store.sound_new initial) (fun _ op h => h.on op) ops
  have c : (System.new ((Store.new initial).replay ops) log deduplicate).Current :=
    current_of_inactive sound rfl nofun nofun
  have paced := l.paced o c on untroubled
  refine ⟨length_spans (l.orderly_target o) l.goesOn, ?_⟩
  rw [show spans = (l.target.spansFrom [] l.after).reverse from rfl]
  generalize l.target.spansFrom [] l.after = latest at paced
  simp only [List.length_reverse, List.mem_reverse, List.head?_reverse, List.isChain_reverse, ne_eq,
    List.reverse_eq_nil_iff]
  rcases paced.cadence with ⟨rfl, now⟩ | ⟨ticker, cadence⟩
  · rw [now]
    refine ⟨nofun, fun later => absurd later (Nat.lt_irrefl _), .nil, fun _ => ⟨rfl, ?_⟩⟩
    intro _ k due
    exact absurd (Nat.le_add_right _ _) (Nat.not_le_of_lt due)
  · refine ⟨cadence.began_getLast, ?_, cadence.isChain, fun short => ⟨?_, ?_⟩⟩
    · rintro - rfl
      cases cadence
    · exact (cadence.exact_of_short short).2.2
    · intro whole k due
      have now_le := paced.now_le_of_short short whole
      exact Nat.lt_of_mul_lt_mul_right (a := interval) (by lia)

/-- From a launch to the third check of it: the first takes some time, the second fails at once. -/
def threeChecks (time : Millis) : List Event :=
  let fail : Event := .answer 1 (.usage (.error (.other "unreachable"))) .work 0
  [.resume 0 .work 0, .resume 1 .work 0, .wait time, fail,
    .wait (seconds 60 - time), .resume 1 .work 0, fail,
    .wait (seconds 120 - max (seconds 60) time), .resume 1 .work 0]

/-- A service whose scheduler has just launched, at the time 0. -/
def justLaunched : System := { serviceAtRest with supervisor := .starting }.launched

/-- After a check that is late by the whole tolerance the next one begins as much too early, and
checks that are short begin a minute apart. -/
theorem three_checks_keep_cadence :
    (∃ (s : System) (l : PastLaunch serviceAtRest
        (.start false :: .supervise .work :: threeChecks 60005) s),
      (l.target.spans l.after).map Span.began = [0, 60005, 120000] ∧
        (l.target.spans l.after).IsChain (Span.Precedes (seconds 60))) ∧
    ∃ (s : System) (l : PastLaunch serviceAtRest
        (.start false :: .supervise .work :: threeChecks 20000) s),
      (l.target.spans l.after).map Span.began = (List.range 3).map (fun k => 0 + k * seconds 60) ∧
        ∀ k, 0 + k * seconds 60 < 120000 → k < 3 := by
  constructor
  · let es : List Event := .start false :: .supervise .work :: threeChecks 60005
    let s : System := ((serviceAtRest.run es).get rfl).1
    let l : PastLaunch serviceAtRest es s :=
      ⟨⟨[.start false], .supervise .work, threeChecks 60005, _, justLaunched, _, _, rfl, ⟨_, rfl⟩,
        rfl, rfl⟩, rfl⟩
    have untroubled : Untroubled justLaunched (threeChecks 60005) s :=
      untroubled_of_isUntroubled (by decide)
    have spans : justLaunched.spans (threeChecks 60005) =
        [⟨0, some 60005⟩, ⟨60005, some 60005⟩, ⟨120000, none⟩] := by decide
    obtain ⟨-, -, -, chain, -⟩ := @checks_keep_cadence _ [] _ _ es s l rfl untroubled
    exact ⟨s, l, congrArg (List.map Span.began) spans, chain⟩
  · let es : List Event := .start false :: .supervise .work :: threeChecks 20000
    let s : System := ((serviceAtRest.run es).get rfl).1
    let l : PastLaunch serviceAtRest es s :=
      ⟨⟨[.start false], .supervise .work, threeChecks 20000, _, justLaunched, _, _, rfl, ⟨_, rfl⟩,
        rfl, rfl⟩, rfl⟩
    have untroubled : Untroubled justLaunched (threeChecks 20000) s :=
      untroubled_of_isUntroubled (by decide)
    have short : ∀ span ∈ justLaunched.spans (threeChecks 20000),
        span.ended.getD 120000 < span.began + seconds 60 := by decide
    have three : (justLaunched.spans (threeChecks 20000)).length = 3 := by decide
    obtain ⟨-, -, -, -, hexact⟩ := @checks_keep_cadence _ [] _ _ es s l rfl untroubled
    obtain ⟨begans, complete⟩ := hexact short
    rw [three] at begans complete
    exact ⟨s, l, begans, complete rfl⟩

end Scheduler
end ClusterWatch

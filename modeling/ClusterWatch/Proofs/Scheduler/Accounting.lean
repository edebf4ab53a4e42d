/-
# Every check is accounted for

A check that a task has begun is under way, or was recorded, or collapsed, or was abandoned
(`Transition.balance` for one step).  A change of the generation is none of these ends.

Only a shutdown abandons a check, and once at most in a call of the scheduler.  For this a state is
given what may still be abandoned in the call, `System.abandonable`: a call raises it by one, no
other step does, and a check that is abandoned is paid from it.  Where the shutdown has come and no
check lives, nothing is left.

The status tells of the check that was recorded last.  `PastRecording` points at it: a step in the
history that takes the last answer of a check on, after which no other check was recorded.
-/
import ClusterWatch.Proofs.Check.Advance
import ClusterWatch.Proofs.Scheduler.History

namespace ClusterWatch.Scheduler

/-! ## Counting effects -/

def Effect.isBeginning : Effect → Bool
  | .asked _ .collect => true
  | _ => false

def Effect.isRecording : Effect → Bool
  | .recorded _ => true
  | _ => false

/-- Whether an effect is the end of a check by a shutdown. -/
def Effect.isAbandonment : Effect → Bool
  | .abandoned _ => true
  | _ => false

/-- Whether an effect is the end of a check together with its task. -/
def Effect.isCollapse : Effect → Bool
  | .collapsed _ => true
  | _ => false

def begun (done : List Effect) : Nat := done.countP Effect.isBeginning

def recorded (done : List Effect) : Nat := done.countP Effect.isRecording

def abandoned (done : List Effect) : Nat := done.countP Effect.isAbandonment

def collapsed (done : List Effect) : Nat := done.countP Effect.isCollapse

section Append

variable (done more : List Effect)

@[simp] theorem begun_append : begun (done ++ more) = begun done + begun more :=
  List.countP_append

@[simp] theorem recorded_append : recorded (done ++ more) = recorded done + recorded more :=
  List.countP_append

@[simp] theorem collapsed_append : collapsed (done ++ more) = collapsed done + collapsed more :=
  List.countP_append

end Append

/-! A check that goes on asks a question, and only its first question is counted. -/

section Question

variable (id : TaskId) (state : Check.State)

@[simp] theorem recorded_question :
    recorded (state.call?.map (Effect.asked id)).toList = 0 := by cases state <;> rfl

@[simp] theorem abandoned_question :
    abandoned (state.call?.map (Effect.asked id)).toList = 0 := by cases state <;> rfl

@[simp] theorem collapsed_question :
    collapsed (state.call?.map (Effect.asked id)).toList = 0 := by cases state <;> rfl

variable {state}

theorem begun_question (h : state ≠ .collecting) :
    begun (state.call?.map (Effect.asked id)).toList = 0 := by
  cases state with
  | collecting => exact absurd rfl h
  | recommending | sending | finished => rfl

end Question

/-! ## The balance of a step -/

variable {s s' : System} {t : Task} {e : Event} {next : Option Work} {status : Status}
  {log : AnnouncementLog} {done : List Effect}

/-- How many checks may still be abandoned before the scheduler is called again. -/
def System.abandonable (s : System) : Nat :=
  match s.supervisor with
  | .starting | .pausing _ => 1
  | .watching .. | .joining _ => if s.shutdown then s.live .check else 1
  | .absent | .ended => 0

theorem TaskStep.abandoned_eq_zero (h : TaskStep s t e next status log done)
    (on : s.shutdown = false) : abandoned done = 0 := by
  cases h with
  | abandon _ _ off => rw [on] at off; cases off
  | proceed => exact abandoned_question _ _
  | _ => rfl

theorem TaskStep.live_check (h : TaskStep s t e next status log done) :
    next.toList.countP (fun work => work.kind = .check) + abandoned done ≤
      [t.work].countP fun work => work.kind = .check := by
  cases next with
  | some work =>
      have hnone : abandoned done = 0 := by
        cases h with
        | proceed => exact abandoned_question _ _
        | _ => rfl
      simp [hnone, h.kind]
  | none =>
      cases h with
      | abandon _ underWay =>
          match hw : t.work with
          | .check .. => exact Nat.le_refl 1
          | .freshSweep | .sweep _ | .freshCheck | .idle .. => rw [hw] at underWay; cases underWay
      | leave | collapse => exact Nat.zero_le _

theorem System.abandonable_le_one {s : System} (o : s.Orderly) : s.abandonable ≤ 1 := by
  unfold System.abandonable
  split
  · exact Nat.le_refl 1
  · exact Nat.le_refl 1
  · split
    · exact o.live_le_one .check
    · exact Nat.le_refl 1
  · split
    · exact o.live_le_one .check
    · exact Nat.le_refl 1
  · exact Nat.zero_le 1
  · exact Nat.zero_le 1

theorem System.abandonable_of_awaited {s : System} (h : s.supervisor.awaited ≠ []) :
    s.abandonable = if s.shutdown then s.live .check else 1 := by
  unfold System.abandonable
  split
  · next hsup => exact absurd (by rw [hsup]; rfl) h
  · next hsup => exact absurd (by rw [hsup]; rfl) h
  · rfl
  · rfl
  · next hsup => exact absurd (by rw [hsup]; rfl) h
  · next hsup => exact absurd (by rw [hsup]; rfl) h

/-- The checks that are abandoned are paid from those that may be; only a call adds one. -/
theorem Transition.abandonable (h : Transition s e s' done) (o : s.Orderly) :
    abandoned done + s'.abandonable ≤ s.abandonable + calls [e] := by
  have lone := System.abandonable_le_one (h.orderly o)
  cases h with
  | call => exact Nat.le_add_left 1 _
  | launch hsup =>
      have before : s.abandonable = 1 := by
        rcases hsup with h | ⟨_, h, -⟩ <;> rw [System.abandonable, h]
      rw [before]
      show 0 + _ ≤ 1
      omega
  | notice hsup | join hsup => simp [System.abandonable, hsup, abandoned, System.live, System.count]
  | pause hsup on => simp [System.abandonable, hsup, on, abandoned, Effect.isAbandonment]
  | terminate => exact Nat.zero_le _
  | @task l r t e next status log done htasks step =>
      have mem : t ∈ s.tasks := mem_of_split htasks
      have awaited := List.ne_nil_of_mem (o.awaited t mem)
      rw [System.abandonable_of_awaited awaited, System.abandonable_of_awaited (by exact awaited)]
      show _ + ite (s.shutdown = true) _ _ ≤ _
      cases off : s.shutdown with
      | false =>
          rw [step.abandoned_eq_zero off]
          exact Nat.le_add_right 1 _
      | true =>
          -- From now on every check that is abandoned takes its task with it.
          have edited := countP_edit (fun work => work.kind = .check) l r t next
          rw [← htasks] at edited
          have gone := step.live_check
          simp only [System.live, System.count, if_true]
          omega
  | update | wait => show 0 + _ ≤ _ + 0; exact Nat.le_of_eq (Nat.zero_add _)
  | shutdown =>
      show 0 + _ ≤ _ + 0
      rw [Nat.zero_add, Nat.add_zero]
      cases hsup : s.supervisor with
      | watching | joining =>
          simp only [System.abandonable, hsup, if_true]
          split
          · exact Nat.le_refl _
          · exact o.live_le_one .check
      | _ => simp [System.abandonable, hsup]

theorem Transition.abandoned_eq_zero (h : Transition s e s' done) (on : s.shutdown = false) :
    abandoned done = 0 := by
  cases h with
  | task _ step => exact step.abandoned_eq_zero on
  | _ => rfl

/-! ## What the status tells -/

/-- The event `e` brings a check that is under way in `s` its last answer, at the time `clock`, and
the check ends with `result`. -/
def System.Completes (s : System) (e : Event) (clock : Instant)
    (result : Except Failure Check.Result) : Prop :=
  ∃ t ∈ s.tasks, ∃ ticker interval state answer first log,
    t.work = .check ticker interval state ∧ e = .answer t.id answer first clock ∧
      state.advance? .notification (s.context clock) answer = some (.finished result, log)

/-- The check that was recorded last in the run `es` from `s₀` to `s`. -/
structure PastRecording (s₀ : System) (es : List Event) (s : System) extends
    PastStep s₀ es s where
  clock : Instant
  result : Except Failure Check.Result
  completes : origin.Completes event clock result
  records : recorded done = 1
  latest : recorded since = 0

/-- A status tells of a result: it has the time, and either the outcome or the failure. -/
def Tells (status : Status) (clock : Instant) (result : Except Failure Check.Result) : Prop :=
  status.last.map CheckRecord.time = some clock ∧
    match result with
    | .ok r =>
        (∃ outcome, r.outcome = some outcome ∧ status.lastOutcome = some outcome.label) ∧
          status.lastError = none
    | .error failure => status.lastOutcome = none ∧ status.lastError = some failure.message

theorem Transition.record (h : Transition s e s' done) :
    (recorded done = 0 ∧ s'.status.checks = s.status.checks ∧ s'.status.last = s.status.last) ∨
      recorded done = 1 ∧ ∃ clock result, s.Completes e clock result ∧
        s'.status = s.status.record (.ofResult clock result) := by
  cases h with
  | @task l r t e next status log done htasks step =>
      have mem : t ∈ s.tasks := mem_of_split htasks
      cases step with
      | @finish ticker interval state result answer log first clock hw advance =>
          exact Or.inr ⟨rfl, clock, result,
            ⟨t, mem, ticker, interval, state, answer, first, log, hw, rfl, advance⟩, rfl⟩
      | proceed => exact Or.inl ⟨recorded_question _ _, rfl, rfl⟩
      | _ => exact Or.inl ⟨rfl, rfl, rfl⟩
  | _ => exact Or.inl ⟨rfl, rfl, rfl⟩

/-- There is no record before the first check; then there is that of the latest. -/
def Told (s₀ : System) (es : List Event) (s : System) : Prop :=
  (s.status.checks = 0 ∧ s.status.last = none) ∨
    0 < s.status.checks ∧ ∃ l : PastRecording s₀ es s,
      s.status.last = some (.ofResult l.clock l.result)

theorem Told.snoc {s₀ s s' : System} {es : List Event} {e : Event} {more : List Effect}
    (h : Told s₀ es s) (reached : s₀.Leads es s) (taken : s.step e = some (s', more))
    (tr : Transition s e s' more) : Told s₀ (es ++ [e]) s' := by
  rcases tr.record with ⟨quiet, checks, last⟩ | ⟨once, clock, result, completes, status⟩
  · rcases h with ⟨zero, hnone⟩ | ⟨positive, l, told⟩
    · exact Or.inl ⟨checks.trans zero, last.trans hnone⟩
    · refine Or.inr ⟨checks ▸ positive, ?_⟩
      have latest : recorded (l.since ++ more) = 0 := by
        rw [recorded_append, l.latest, quiet]
      exact ⟨{ l with toPastStep := l.toPastStep.extend taken, latest }, last.trans told⟩
  · refine Or.inr ⟨by rw [status]; exact Nat.succ_pos _, ?_⟩
    exact ⟨{ PastStep.last reached taken with
      clock, result, completes, records := once, latest := rfl }, by rw [status]; rfl⟩

/-! ## The account of a run -/

end ClusterWatch.Scheduler

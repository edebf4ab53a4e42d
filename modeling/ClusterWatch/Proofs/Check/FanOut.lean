/-
# One message, whatever happens on the way

While a check waits for an answer, the settings are updated, other checks change the log, and time
passes.  A *course* is a check that is under way together with all of this: what happens to it is
that something is done with the store, that the log is replaced, or that the answer arrives that the
check waits for (`Happening`).

A check looks at the settings twice.  When the usage arrives it reads the style.  When the
recommendation arrives it fixes the text, the recipients and the token, all in one step; from then
on it carries them along, and what happens to the settings has no way into it (`run_sending`).
-/
import ClusterWatch.Proofs.Check.Advance
import ClusterWatch.Proofs.Check.Delivery
import ClusterWatch.Proofs.Settings.Operations

namespace ClusterWatch.Check

inductive Happening where
  | operation (op : Store.Operation)
  | log (log : AnnouncementLog)
  | answer (answer : Answer) (clock : Instant)

namespace Happening

/-- What is done with the store. -/
def operation? : Happening → Option Store.Operation
  | .operation op => some op
  | _ => none

def answer? : Happening → Option Answer
  | .answer a _ => some a
  | _ => none

end Happening

/-- What is done with the store while things happen. -/
def operations (hs : List Happening) : List Store.Operation := hs.filterMap Happening.operation?

def answers (hs : List Happening) : List Answer := hs.filterMap Happening.answer?

/-- A check that is under way, the settings and the log as they are, and all questions that the
check has asked. -/
structure Course where
  store : Store
  log : AnnouncementLog
  state : State
  asked : List Call

/-! ## The decision -/

theorem weigh_cases (c : Context) (r : Recommendation) :
    (∃ outcome, (weigh c r).1 = .finish (.ok ⟨r, some outcome⟩) ∧
        ∀ flagged announced delivery, outcome ≠ .dispatched flagged announced delivery) ∨
      ∃ current waiting, c.store.recipients = current :: waiting ∧
        (weigh c r).1 = .dispatch ⟨r, r.flaggedCount, (announce c r).1.flaggedCount,
          Report.text (announce c r).1 c.clock, c.store.settings.token, current, waiting, {}⟩ := by
  unfold weigh
  split
  · dsimp only
    split
    · cases hsome : c.store.recipients with
      | nil => exact absurd hsome c.store.recipients_ne_nil
      | cons current waiting => exact Or.inr ⟨current, waiting, rfl, rfl⟩
    · exact Or.inl ⟨_, rfl, fun _ _ _ => Outcome.noConfusion⟩
  · exact Or.inl ⟨_, rfl, fun _ _ _ => Outcome.noConfusion⟩

namespace Course

def start (store : Store) (log : AnnouncementLog) : Course := ⟨store, log, .collecting, [.collect]⟩

/-- The course after something has happened; an answer to another question makes no sense. -/
def step (purpose : Purpose) (deduplicate : Bool) (c : Course) : Happening → Option Course
  | .operation op => some { c with store := op.on c.store }
  | .log log => some { c with log }
  | .answer answer clock =>
      (c.state.advance? purpose ⟨c.store, c.log, deduplicate, clock⟩ answer).map
        fun (state, log) => { c with state, log, asked := c.asked ++ state.call?.toList }

def run (purpose : Purpose) (deduplicate : Bool) (c : Course) (hs : List Happening) :
    Option Course :=
  hs.foldlM (step purpose deduplicate) c

variable {purpose : Purpose} {deduplicate : Bool} {c c' : Course} {h : Happening}
  {hs : List Happening}

theorem run_cons_eq_some (run : c.run purpose deduplicate (h :: hs) = some c') :
    ∃ next, c.step purpose deduplicate h = some next ∧ next.run purpose deduplicate hs = some c' :=
  Option.bind_eq_some_iff.mp run

/-! ## Waiting for an answer -/

theorem run_finished {result : Except Failure Result} (state : c.state = .finished result)
    (run : c.run purpose deduplicate hs = some c') :
    answers hs = [] ∧ c'.state = c.state ∧ c'.asked = c.asked := by
  induction hs generalizing c with
  | nil =>
      cases run
      exact ⟨rfl, rfl, rfl⟩
  | cons h hs ih =>
      obtain ⟨next, hstep, run⟩ := run_cons_eq_some run
      cases h with
      | operation | log =>
          cases hstep
          have rest := ih (by exact state) run
          exact rest
      | answer a clock =>
          obtain ⟨p, advance, -⟩ := Option.map_eq_some_iff.mp hstep
          rw [state] at advance
          cases advance

theorem exists_answer (run : c.run purpose deduplicate hs = some c')
    (changed : c'.state ≠ c.state) :
    ∃ before a clock after state log log', hs = before ++ .answer a clock :: after ∧
      answers before = [] ∧
      c.state.advance? purpose
          ⟨c.store.replay (operations before), log, deduplicate, clock⟩ a = some (state, log') ∧
      ∀ more, c.run purpose deduplicate (before ++ .answer a clock :: more) =
        Course.run purpose deduplicate ⟨c.store.replay (operations before), log', state,
          c.asked ++ state.call?.toList⟩ more := by
  induction hs generalizing c with
  | nil =>
      cases run
      exact absurd rfl changed
  | cons h hs ih =>
      obtain ⟨next, hstep, run⟩ := run_cons_eq_some run
      cases h with
      | operation | log =>
          cases hstep
          obtain ⟨before, a, clock, after, state, log, log', rfl, hnone, advance, rest⟩ :=
            ih run changed
          exact ⟨_ :: before, a, clock, after, state, log, log', rfl, by exact hnone, advance, rest⟩
      | answer a clock =>
          obtain ⟨⟨state, log'⟩, advance, rfl⟩ := Option.map_eq_some_iff.mp hstep
          refine ⟨[], a, clock, hs, state, c.log, log', rfl, rfl, advance, ?_⟩
          intro more
          show (c.step purpose deduplicate (.answer a clock)).bind
            (fun c => c.run purpose deduplicate more) = _
          rw [hstep]
          rfl

/-! ## Messages on their way -/

/-- What became of a message, recipient by recipient. -/
abbrev Outcomes := List (Int × Except Failure Unit)

/-- A delivery with more outcomes in it. -/
def addAll (d : Delivery) (outcomes : Outcomes) : Delivery :=
  outcomes.foldl (fun d o => d.add o.1 o.2) d

def delivered (outcomes : Outcomes) : List Int := (outcomes.filter fun o => o.2.isOk).map Prod.fst

/-- The recipients for whom delivery has failed, each with the wording of its own failure. -/
def failures (outcomes : Outcomes) : List FailedDelivery :=
  outcomes.filterMap fun o =>
    match o.2 with
    | .ok _ => none
    | .error failure => some ⟨o.1, failure.message⟩

theorem addAll_eq (d : Delivery) (outcomes : Outcomes) :
    addAll d outcomes = ⟨d.delivered ++ delivered outcomes, d.failed ++ failures outcomes⟩ := by
  induction outcomes generalizing d with
  | nil => simp [addAll, delivered, failures]
  | cons o outcomes ih =>
      have rest : addAll d (o :: outcomes) = addAll (d.add o.1 o.2) outcomes := rfl
      obtain ⟨recipient, outcome⟩ := o
      cases outcome <;>
        simp [rest, ih, Delivery.add, delivered, failures, Except.isOk, Except.toBool]

theorem served_perm (outcomes : Outcomes) :
    (served ⟨delivered outcomes, failures outcomes⟩).Perm (outcomes.map Prod.fst) := by
  induction outcomes with
  | nil => exact .refl _
  | cons o outcomes ih =>
      obtain ⟨recipient, outcome⟩ := o
      cases outcome with
      | ok => exact ih.cons recipient
      | error failure => exact List.perm_middle.trans (ih.cons recipient)

/-- Once messages are on their way, one outcome arrives for each recipient, and nothing else that
happens has a part in what is sent and reported. -/
theorem run_sending {d : Dispatch} {result : Except Failure Result} (state : c.state = .sending d)
    (run : c.run purpose deduplicate hs = some c') (ended : c'.state = .finished result) :
    ∃ outcomes : Outcomes, outcomes.map Prod.fst = d.current :: d.waiting ∧
      answers hs = outcomes.map (fun o => .sent o.2) ∧
      c'.asked = c.asked ++ d.waiting.map (fun recipient => .send recipient d.text d.credential) ∧
      result = .ok ⟨d.recommendation,
        some (.dispatched d.flagged d.announced (addAll d.delivery outcomes))⟩ := by
  induction hs generalizing c d with
  | nil =>
      cases run
      rw [state] at ended
      cases ended
  | cons h hs ih =>
      obtain ⟨next, hstep, run⟩ := run_cons_eq_some run
      cases h with
      | operation | log =>
          cases hstep
          have rest := ih (by exact state) run
          exact rest
      | answer a clock =>
          obtain ⟨⟨state', log⟩, advance, rfl⟩ := Option.map_eq_some_iff.mp hstep
          rw [state] at advance
          cases State.Advance.of_advance? advance with
          | sent d outcome =>
              obtain ⟨r, flagged, announced, text, credential, current, waiting, delivery⟩ := d
              cases waiting with
              | nil =>
                  obtain ⟨hnone, same, asked⟩ := run_finished rfl run
                  rw [ended] at same
                  cases same
                  refine ⟨[(current, outcome)], rfl, ?_, ?_, rfl⟩
                  · exact congrArg (.sent outcome :: ·) hnone
                  · rw [asked]
                    rfl
              | cons following waiting =>
                  obtain ⟨outcomes, served, arrived, asked, rfl⟩ := ih rfl run
                  refine ⟨(current, outcome) :: outcomes, ?_, ?_, ?_, rfl⟩
                  · exact congrArg (current :: ·) served
                  · exact congrArg (.sent outcome :: ·) arrived
                  · rw [asked, List.append_assoc]
                    rfl

/-- Whatever the outcomes are, one for each recipient brings the check to its end. -/
theorem run_outcomes {d : Dispatch} (state : c.state = .sending d) {outcomes : Outcomes}
    (all : outcomes.map Prod.fst = d.current :: d.waiting) :
    c.run purpose deduplicate (outcomes.map fun o => .answer (.sent o.2) 0) = some
      { c with
        state := .finished (.ok ⟨d.recommendation,
          some (.dispatched d.flagged d.announced (addAll d.delivery outcomes))⟩)
        asked := c.asked ++
          d.waiting.map (fun recipient => .send recipient d.text d.credential) } := by
  induction outcomes generalizing c d with
  | nil => cases all
  | cons o outcomes ih =>
      obtain ⟨store, log, state', asked⟩ := c
      cases state
      obtain ⟨r, flagged, announced, text, credential, current, waiting, delivery⟩ := d
      obtain ⟨rfl, rest⟩ := List.cons.inj all
      cases waiting with
      | nil =>
          obtain rfl := List.map_eq_nil_iff.mp rest
          rfl
      | cons following waiting =>
          have later := ih (c := ⟨store, log, .sending ⟨r, flagged, announced, text, credential,
            following, waiting, delivery.add o.1 o.2⟩, asked ++ [.send following text credential]⟩)
            rfl rest
          rw [List.append_assoc] at later
          exact later

/-! ## The two answers before -/

theorem run_collecting {s : Store} {log : AnnouncementLog} {asked : List Call} {result : Result}
    (run : Course.run purpose deduplicate ⟨s, log, .collecting, asked⟩ hs = some c')
    (ended : c'.state = .finished (.ok result)) :
    ∃ before usage t after log',
      let s' := s.replay (operations before)
      hs = before ++ .answer (.usage (.ok usage)) t :: after ∧ answers before = [] ∧
        ∀ more, Course.run purpose deduplicate ⟨s, log, .collecting, asked⟩
            (before ++ .answer (.usage (.ok usage)) t :: more) =
          Course.run purpose deduplicate ⟨s', log', .recommending usage s'.settings.style,
            asked ++ [.recommend usage s'.settings.style]⟩ more := by
  have changed : c'.state ≠ .collecting := by
    rw [ended]
    exact State.noConfusion
  obtain ⟨before, a, t, after, state', log, log', rfl, quiet, advance, goesOn⟩ :=
    exists_answer run changed
  rw [goesOn] at run
  cases State.Advance.of_advance? advance with
  | usage usage =>
      cases usage with
      | ok usage => exact ⟨before, usage, t, after, _, rfl, quiet, goesOn⟩
      | error failure =>
          have same := (run_finished rfl run).2.1
          rw [ended] at same
          cases same

theorem run_recommending {s : Store} {log : AnnouncementLog} {asked : List Call}
    {usage : UsageByNamespace} {style : String} {r : Recommendation} {flagged announced : Nat}
    {delivery : Delivery}
    (run : Course.run .notification deduplicate ⟨s, log, .recommending usage style, asked⟩ hs =
      some c')
    (ended : c'.state = .finished (.ok ⟨r, some (.dispatched flagged announced delivery)⟩)) :
    ∃ before r' t after log₁ log₂ current waiting,
      let s' := s.replay (operations before)
      let news := (announce ⟨s', log₁, deduplicate, t⟩ r').1
      hs = before ++ .answer (.recommendation (.ok r')) t :: after ∧ answers before = [] ∧
        s'.recipients = current :: waiting ∧
        ∀ more, Course.run .notification deduplicate ⟨s, log, .recommending usage style, asked⟩
            (before ++ .answer (.recommendation (.ok r')) t :: more) =
          Course.run .notification deduplicate
            ⟨s', log₂, .sending ⟨r', r'.flaggedCount, news.flaggedCount, Report.text news t,
                s'.settings.token, current, waiting, {}⟩,
              asked ++ [.send current (Report.text news t) s'.settings.token]⟩ more := by
  have changed : c'.state ≠ .recommending usage style := by
    rw [ended]
    exact State.noConfusion
  obtain ⟨before, a, t, after, state', log, log', rfl, quiet, advance, goesOn⟩ :=
    exists_answer run changed
  rw [goesOn] at run
  generalize hstate' : state' = state'' at advance
  cases State.Advance.of_advance? advance with
  | recommendation recommendation =>
  cases recommendation with
  | error failure =>
      have same := (run_finished hstate' run).2.1
      rw [ended, hstate'] at same
      cases same
  | ok r' =>
  rcases weigh_cases ⟨s.replay (operations before), log, deduplicate, t⟩ r' with
    ⟨outcome, decision, silent⟩ | ⟨current, waiting, recipients, decision⟩
  · have finished : state' = .finished (.ok ⟨r', some outcome⟩) :=
      hstate'.trans (congrArg Decision.state decision)
    have same := (run_finished finished run).2.1
    rw [ended, finished] at same
    cases same
    exact absurd rfl (silent _ _ _)
  · obtain rfl := hstate'.trans (congrArg Decision.state decision)
    exact ⟨before, r', t, after, log, _, current, waiting, rfl, quiet, recipients, goesOn⟩

end Course

/-! ## Recipients -/

theorem nodup_effectiveRecipients {ids : List Int} (h : ids.Nodup) :
    (Settings.effectiveRecipients ids).Nodup := by
  unfold Settings.effectiveRecipients
  split
  · decide
  · exact h

theorem nodup_replay {s : Store} (h : s.settings.recipients.Nodup) (ops : List Store.Operation) :
    (s.replay ops).settings.recipients.Nodup :=
  Store.replay_induction (P := fun s => s.settings.recipients.Nodup) h
    (fun _ op h => Store.nodup_on h op) ops

/-! ## The main statement -/

/-- A check that was begun with a store in use and that has dispatched a message, whatever happened
in the meantime, got the usage and then the recommendation.  Let `s₁` be the store at the first of
these moments and `s₂` the store at the second.

* The model was asked with the style of `s₁`.
* Then one text was sent with the token of `s₂` to the recipients of `s₂`, each of them once and in
  their order.
* The report tells of each recipient once: to whom the message was delivered, and for whom delivery
  has failed and how.
* Had the outcomes been any others, the same would have been sent, and the report would tell of
  those. -/
theorem fan_out_is_fixed_at_once {initial : Settings} {ops : List Store.Operation}
    {log : AnnouncementLog} {deduplicate : Bool} {hs : List Happening} {c : Course}
    {r : Recommendation} {flagged announced : Nat} {delivery : Delivery}
    (run : (Course.start ((Store.new initial).replay ops) log).run .notification deduplicate hs =
      some c)
    (ended : c.state = .finished (.ok ⟨r, some (.dispatched flagged announced delivery)⟩)) :
    ∃ before usage t₁ between t₂ after log₂,
      let s₁ := ((Store.new initial).replay ops).replay (operations before)
      let s₂ := s₁.replay (operations between)
      let text := Report.text (announce ⟨s₂, log₂, deduplicate, t₂⟩ r).1 t₂
      let decided := before ++ .answer (.usage (.ok usage)) t₁ ::
        (between ++ [.answer (.recommendation (.ok r)) t₂])
      hs = decided ++ after ∧ answers before = [] ∧ answers between = [] ∧
        c.asked = .collect :: .recommend usage s₁.settings.style ::
          s₂.recipients.map (fun recipient => .send recipient text s₂.settings.token) ∧
        s₂.recipients.Nodup ∧
        (∃ outcomes : Course.Outcomes, outcomes.map Prod.fst = s₂.recipients ∧
          answers after = outcomes.map (fun o => .sent o.2) ∧
          delivery = ⟨Course.delivered outcomes, Course.failures outcomes⟩ ∧
          (served delivery).Perm s₂.recipients) ∧
        ∀ outcomes : Course.Outcomes, outcomes.map Prod.fst = s₂.recipients →
          ∃ c', (Course.start ((Store.new initial).replay ops) log).run .notification deduplicate
              (decided ++ outcomes.map fun o => .answer (.sent o.2) 0) = some c' ∧
            c'.asked = c.asked ∧
            c'.state = .finished (.ok ⟨r, some (.dispatched flagged announced
              ⟨Course.delivered outcomes, Course.failures outcomes⟩)⟩) := by
  obtain ⟨before, usage, t₁, rest, log₁, rfl, quiet₁, goesOn₁⟩ := Course.run_collecting run ended
  rw [Course.start, goesOn₁] at run
  obtain ⟨between, r', t₂, after, log₂, log₂', current, waiting, rfl, quiet₂, recipients,
    goesOn₂⟩ := Course.run_recommending run ended
  rw [goesOn₂] at run
  obtain ⟨outcomes, served, arrived, asked, result⟩ := Course.run_sending rfl run ended
  cases result
  have unique : (Store.new initial).settings.recipients.Nodup :=
    Settings.nodup_distinct initial.recipients
  have distinct := nodup_effectiveRecipients
    (nodup_replay (nodup_replay (nodup_replay unique ops) (operations before)) (operations between))
  refine ⟨before, usage, t₁, between, t₂, after, log₂, by simp, quiet₁, quiet₂, ?_, distinct,
    ⟨outcomes, served.trans recipients.symm, arrived, Course.addAll_eq {} outcomes, ?_⟩, ?_⟩
  · rw [asked, recipients]
    rfl
  · rw [Course.addAll_eq]
    exact (Course.served_perm outcomes).trans (.of_eq (served.trans recipients.symm))
  · intro others all
    have run' := (goesOn₁ _).trans ((goesOn₂ _).trans
      (Course.run_outcomes rfl (all.trans recipients)))
    refine ⟨_, by simpa [Course.start] using run', asked.symm, ?_⟩
    rw [Course.addAll_eq]
    rfl

/-- Updates before the usage, before the recommendation and before each outcome of a message. -/
def disturbed : List Happening :=
  [.operation (.apply { style := some "brief" }),
    .answer (.usage (.ok .empty)) 0,
    .operation (.apply { token := some "new", recipients := some [2, 1, 2], style := some "long" }),
    .answer (.recommendation (.ok twiceFlagged)) 7,
    .operation (.apply { token := some "late", recipients := some [3] }),
    .answer (.sent (.error (.other "blocked"))) 8,
    .operation (.apply { recipients := some [1] }),
    .answer (.sent (.ok ())) 9]

/-- The message goes to those who were to be told when the recommendation arrived, whatever the
settings are afterwards, and had the first of them been reached and not the second, it would have
gone to the same. -/
theorem fan_out_ignores_late_updates :
    ∃ c text, (Course.start (.new .default) .empty).run .notification false disturbed = some c ∧
      c.state = .finished (.ok ⟨twiceFlagged,
        some (.dispatched 3 3 ⟨[1], [⟨2, "blocked"⟩]⟩)⟩) ∧
      c.asked = [.collect, .recommend .empty "brief", .send 2 text "new", .send 1 text "new"] ∧
      ∃ hs' c', (Course.start (.new .default) .empty).run .notification false hs' = some c' ∧
        c'.asked = c.asked ∧
        c'.state = .finished (.ok ⟨twiceFlagged,
          some (.dispatched 3 3 ⟨[2], [⟨1, "blocked"⟩]⟩)⟩) := by
  obtain ⟨c, run, ended, asked⟩ :
      ∃ c, (Course.start ((Store.new .default).replay []) .empty).run .notification false
          disturbed = some c ∧
        c.state = .finished (.ok ⟨twiceFlagged,
          some (.dispatched 3 3 ⟨[1], [⟨2, "blocked"⟩]⟩)⟩) ∧
        c.asked = [.collect, .recommend .empty "brief",
          .send 2 (Report.text twiceFlagged 7) "new", .send 1 (Report.text twiceFlagged 7) "new"] :=
    ⟨_, rfl, rfl, rfl⟩
  refine ⟨c, _, run, ended, asked, ?_⟩
  obtain ⟨before, usage, t₁, between, t₂, after, log₂, -, -, -, asked', -, -, others⟩ :=
    fan_out_is_fixed_at_once run ended
  have recipients := congrArg (List.map fun
    | .send recipient _ _ => recipient
    | _ => 0) (asked'.symm.trans asked)
  simp only [List.map_cons, List.map_map, List.map_nil, Function.comp_def, List.map_id',
    List.cons.injEq, true_and] at recipients
  obtain ⟨c', run', same, ended'⟩ :=
    others [(2, .ok ()), (1, .error (.other "blocked"))] recipients.symm
  exact ⟨_, c', run', same, ended'⟩

end ClusterWatch.Check

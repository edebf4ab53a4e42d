/-
# What is withheld was sent

A check that withholds a workload relies on an earlier message.  The log says that there was one:
every record that was not there in the beginning was made by a check that sent a message about the
identity at that time (`Told`), and a record that suppresses is younger than a window.

The log says nothing about the fate of the message.  A check records what it announces before it
sends anything, and no outcome of a message leads back to the log.  So what is withheld has been
sent to all recipients, but possibly none of them got it (`withheld_though_nobody_was_reached`).
-/
import ClusterWatch.Proofs.Check.News
import ClusterWatch.Proofs.Settings.Store

namespace ClusterWatch.Check

/-! ## One message -/

section Message

variable {σ : Type} (c : Collaborators σ) (text credential : String)

/-- The recipients of a message to whom it was delivered or for whom delivery has failed. -/
def served (d : Delivery) : List Int := d.delivered ++ d.failed.map FailedDelivery.recipient

theorem served_add (d : Delivery) (recipient : Int) (answer : Except Failure Unit) :
    (served (d.add recipient answer)).Perm (recipient :: served d) := by
  cases answer with
  | ok =>
      have moved : (d.delivered ++ [recipient] ++ d.failed.map FailedDelivery.recipient).Perm _ :=
        List.perm_append_singleton recipient d.delivered |>.append_right _
      exact moved
  | error failure =>
      have moved := List.perm_append_singleton recipient (served d)
      simpa [served, Delivery.add] using moved

theorem served_sendAll (recipients : List Int) (d : Delivery) (s : σ) :
    (served (sendAll c text credential recipients d s).1).Perm (recipients ++ served d) := by
  induction recipients generalizing d s with
  | nil => exact .refl _
  | cons recipient more ih =>
      have first := served_add d recipient (c.send recipient text credential s).1
      have rest := ih (d.add recipient (c.send recipient text credential s).1)
        (c.send recipient text credential s).2
      exact rest.trans ((first.append_left more).trans List.perm_middle)

end Message

/-! ## A series of checks -/

/-- What a check of a series finds: the settings and the time. -/
structure Occasion where
  store : Store
  clock : Instant

structure Made where
  context : Context
  result : Except Failure Result

/-- Makes checks one after the other that tell the recipients and ask the same log. -/
def performAll {σ : Type} (c : Collaborators σ) :
    List Occasion → AnnouncementLog → σ → List Made × AnnouncementLog × σ
  | [], log, s => ([], log, s)
  | o :: more, log, s =>
      let context : Context := ⟨o.store, log, true, o.clock⟩
      let (result, log, s) := perform c .notification context s
      let (made, log, s) := performAll c more log s
      (⟨context, result⟩ :: made, log, s)

namespace Made

/-- A check withholds a workload: it is flagged at a place where it is no news. -/
def Withholds (m : Made) (x : String × FlaggedWorkload) : Prop :=
  ∃ r outcome before after, m.result = .ok ⟨r, some outcome⟩ ∧ r.flagged = before ++ x :: after ∧
    isNews m.context.log m.context.clock before x = false

/-- A check has sent a message that counts a workload of an identity, and this is what became of
it. -/
def Tells {σ : Type} (c : Collaborators σ) (m : Made) (id : String) (delivery : Delivery) : Prop :=
  ∃ r s, delivery = (announceTo c m.context r s).1 ∧
    m.result = .ok ⟨r, some (.dispatched r.flagged.length (announce m.context r).1.flagged.length
      delivery)⟩ ∧
    id ∈ (announce m.context r).1.flagged.map identityOf

end Made

section Series

variable {σ : Type} {c : Collaborators σ} {context : Context}

theorem perform_cases (c : Collaborators σ) (on : context.deduplicate = true) (s : σ) :
    (∃ failure s', perform c .notification context s = (.error failure, context.log, s')) ∨
      ∃ r s₂ s', perform c .notification context s =
        (.ok ⟨r, some (outcomeOf r (news context.log context.clock r.flagged)
          (announceTo c context r s₂).1)⟩, (announce context r).2, s') := by
  rcases hcollect : c.collect s with ⟨failure | usage, s₁⟩
  · exact Or.inl ⟨failure, s₁, by simp only [perform, hcollect]⟩
  rcases hrecommend : c.recommend usage context.store.settings.style s₁ with ⟨failure | r, s₂⟩
  · exact Or.inl ⟨failure, s₂, by simp only [perform, hcollect, hrecommend, recommended]⟩
  · exact Or.inr ⟨r, s₂, _, perform_eq c on hcollect hrecommend⟩

theorem tells_of_mem_news (on : context.deduplicate = true) (r : Recommendation) (s : σ) {id : String}
    (new : id ∈ (news context.log context.clock r.flagged).map identityOf) :
    Made.Tells c ⟨context, .ok ⟨r, some (outcomeOf r (news context.log context.clock r.flagged)
      (announceTo c context r s).1)⟩⟩ id (announceTo c context r s).1 := by
  refine ⟨r, s, rfl, ?_, by rwa [flagged_announce on]⟩
  obtain ⟨x, mem, -⟩ := List.mem_map.mp new
  have hsome : r.flagged ≠ [] := List.ne_nil_of_mem (mem_of_mem_news mem).1
  have fresh : news context.log context.clock r.flagged ≠ [] := List.ne_nil_of_mem mem
  rw [outcomeOf, if_neg hsome, if_neg fresh, flagged_announce on]

/-- Beside what was in the log `start`, a log remembers nothing but the messages of checks. -/
def Told (c : Collaborators σ) (start log : AnnouncementLog) (made : List Made) : Prop :=
  ∀ id last, log.records.find? id = some last →
    start.records.find? id = some last ∨
      ∃ q ∈ made, q.context.clock = last ∧ ∃ delivery, q.Tells c id delivery

variable {start : AnnouncementLog}

theorem Told.snoc {made : List Made} (told : Told c start context.log made)
    (on : context.deduplicate = true) (s : σ) :
    Told c start (perform c .notification context s).2.1
      (made ++ [⟨context, (perform c .notification context s).1⟩]) := by
  intro id last found
  have earlier (before : context.log.records.find? id = some last) {m : Made} :
      start.records.find? id = some last ∨
        ∃ q ∈ made ++ [m], q.context.clock = last ∧ ∃ delivery, q.Tells c id delivery := by
    refine (told id last before).imp_right ?_
    rintro ⟨q, mem, rest⟩
    exact ⟨q, List.mem_append_left _ mem, rest⟩
  rcases perform_cases c on s with ⟨failure, s', whole⟩ | ⟨r, s₂, s', whole⟩
  · rw [whole] at found
    exact earlier found
  · rw [whole] at found ⊢
    have record := find?_log_announce on r id
    by_cases new : id ∈ (news context.log context.clock r.flagged).map identityOf
    · cases (record.2 new).symm.trans found
      exact Or.inr ⟨_, List.mem_append_right _ List.mem_cons_self, rfl, _,
        tells_of_mem_news on r s₂ new⟩
    · have same := not_not.mp (mt record.1.mp new)
      exact earlier (same.symm.trans found)

/-- What is flagged and not suppressed is announced, if not at this place then at an earlier one. -/
theorem mem_news_of_flagged {log : AnnouncementLog} {now : Instant}
    {l : List (String × FlaggedWorkload)} {id : String} (flagged : id ∈ l.map identityOf)
    (unheeded : log.suppresses id now = false) : id ∈ (news log now l).map identityOf := by
  -- After the pass the identity is suppressed, and the log that was there before did not do that.
  have heeded := (suppresses_sift now log l id).mpr (Or.inr flagged)
  by_contra old
  rw [AnnouncementLog.suppresses, find?_sift, if_neg old] at heeded
  rw [AnnouncementLog.suppresses, heeded] at unheeded
  cases unheeded

theorem Made.Withholds.cases {m : Made} {x : String × FlaggedWorkload} (h : m.Withholds x) :
    (∃ last, m.context.log.records.find? (identityOf x) = some last ∧
        m.context.clock - last < AnnouncementLog.window) ∨
      ∃ r outcome, m.result = .ok ⟨r, some outcome⟩ ∧
        identityOf x ∈ (news m.context.log m.context.clock r.flagged).map identityOf := by
  obtain ⟨r, outcome, before, after, result, split, old⟩ := h
  rw [isNews_eq, Bool.not_eq_false', Bool.or_eq_true] at old
  cases heeded : m.context.log.suppresses (identityOf x) m.context.clock with
  | true => exact Or.inl (AnnouncementLog.suppresses_iff.mp heeded)
  | false =>
      refine Or.inr ⟨r, outcome, result, mem_news_of_flagged ?_ heeded⟩
      rw [split, List.map_append, List.map_cons]
      exact List.mem_append_right _ List.mem_cons_self

/-- A workload that is withheld was in a message of this check, or of an earlier one less than a
window ago, if no record from the beginning suppresses it. -/
theorem Told.of_withholds {made : List Made} (told : Told c start context.log made)
    (on : context.deduplicate = true) (s : σ) {x : String × FlaggedWorkload}
    (old : ∀ last, start.records.find? (identityOf x) = some last →
      AnnouncementLog.window ≤ context.clock - last)
    (h : Made.Withholds ⟨context, (perform c .notification context s).1⟩ x) :
    ∃ q ∈ made ++ [⟨context, (perform c .notification context s).1⟩],
      context.clock - q.context.clock < AnnouncementLog.window ∧
        ∃ delivery, q.Tells c (identityOf x) delivery := by
  rcases h.cases with ⟨last, found, recent⟩ | ⟨r, outcome, result, new⟩
  · rcases told _ _ found with before | ⟨q, mem, rfl, tells⟩
    · exact absurd recent (Int.not_lt.mpr (old last before))
    · exact ⟨q, List.mem_append_left _ mem, recent, tells⟩
  · refine ⟨_, List.mem_append_right _ List.mem_cons_self, ?_, ?_⟩
    · simp [AnnouncementLog.window]
    rcases perform_cases c on s with ⟨failure, s', whole⟩ | ⟨r', s₂, s', whole⟩
    · rw [whole] at result
      cases result
    · rw [whole] at result ⊢
      cases result
      exact ⟨_, tells_of_mem_news on r s₂ new⟩

theorem performAll_cons (c : Collaborators σ) (o : Occasion) (more : List Occasion)
    (log : AnnouncementLog) (s : σ) :
    (performAll c (o :: more) log s).1 =
      ⟨⟨o.store, log, true, o.clock⟩,
          (perform c .notification ⟨o.store, log, true, o.clock⟩ s).1⟩ ::
        (performAll c more (perform c .notification ⟨o.store, log, true, o.clock⟩ s).2.1
          (perform c .notification ⟨o.store, log, true, o.clock⟩ s).2.2).1 :=
  rfl

/-- Along a series, a workload that is withheld was in an earlier message or in one of the same
check. -/
theorem Told.of_performAll {occasions : List Occasion} {log : AnnouncementLog} {s : σ}
    {earlier before after : List Made} {m : Made} (told : Told c start log earlier)
    (split : (performAll c occasions log s).1 = before ++ m :: after)
    {x : String × FlaggedWorkload}
    (old : ∀ last, start.records.find? (identityOf x) = some last →
      AnnouncementLog.window ≤ m.context.clock - last)
    (h : m.Withholds x) :
    ∃ q ∈ earlier ++ before ++ [m], m.context.clock - q.context.clock < AnnouncementLog.window ∧
      ∃ delivery, q.Tells c (identityOf x) delivery := by
  induction occasions generalizing log s earlier before with
  | nil => cases before <;> cases split
  | cons o more ih =>
      rw [performAll_cons] at split
      cases before with
      | nil =>
          obtain ⟨rfl, -⟩ := List.cons.inj split
          rw [List.append_nil]
          exact told.of_withholds rfl s old h
      | cons first before =>
          obtain ⟨rfl, rest⟩ := List.cons.inj split
          simpa [List.append_assoc] using ih (told.snoc rfl s) rest

/-- Of a series of checks that begins with a log, whatever the collaborators answer: when a check
withholds a workload, and not for a record from the beginning, then it or an earlier one, less than
a window ago, has sent a message that counts a workload of this identity to all recipients of its
settings, of which there are some.  Each of them was served once, and the message was delivered to
one at least, unless delivery has failed for all of them. -/
theorem withheld_was_sent (c : Collaborators σ) (occasions : List Occasion) (log : AnnouncementLog)
    (s : σ) {before after : List Made} {m : Made}
    (split : (performAll c occasions log s).1 = before ++ m :: after)
    {x : String × FlaggedWorkload}
    (old : ∀ last, log.records.find? (identityOf x) = some last →
      AnnouncementLog.window ≤ m.context.clock - last)
    (h : m.Withholds x) :
    ∃ q ∈ before ++ [m], m.context.clock - q.context.clock < AnnouncementLog.window ∧
      ∃ delivery, q.Tells c (identityOf x) delivery ∧ q.context.store.recipients ≠ [] ∧
        (served delivery).Perm q.context.store.recipients ∧
        (delivery.delivered ≠ [] ∨
          ∀ recipient ∈ q.context.store.recipients, ∃ f ∈ delivery.failed, f.recipient = recipient)
    := by
  have told : Told c log log [] := fun _ _ found => Or.inl found
  obtain ⟨q, mem, recent, delivery, tells⟩ := told.of_performAll split old h
  have each : (served delivery).Perm q.context.store.recipients := by
    obtain ⟨r, s, rfl, -⟩ := tells
    have whole := served_sendAll c (Report.text (announce q.context r).1 q.context.clock)
      q.context.store.settings.token q.context.store.recipients {} s
    rwa [show served {} = [] from rfl, List.append_nil] at whole
  refine ⟨q, mem, recent, delivery, tells, q.context.store.recipients_ne_nil, each, ?_⟩
  by_cases hnone : delivery.delivered = []
  · refine Or.inr ?_
    intro recipient mem
    rw [← each.mem_iff, served, hnone] at mem
    exact List.mem_map.mp mem
  · exact Or.inl hnone

end Series

/-! ## A message that nobody gets -/

def oneFlagged : Recommendation where
  namespaces := .ofList [("web", [{ name := "api" }])]

/-- Recipients who cannot be reached at first. -/
def unreachableAtFirst : Collaborators (List Int) :=
  telling oneFlagged fun told => if told.isEmpty then .error (.other "unreachable") else .ok ()

def aMinuteApart : List Occasion := [⟨.new .default, 0⟩, ⟨.new .default, 60000⟩]

theorem made_aMinuteApart :
    ∃ first second, (performAll unreachableAtFirst aMinuteApart .empty []).1 = [first, second] ∧
      first.context.clock ≤ second.context.clock ∧
      first.result = .ok ⟨oneFlagged, some (.dispatched 1 1 ⟨[], [⟨-4835116305, "unreachable"⟩]⟩)⟩ ∧
      second.result = .ok ⟨oneFlagged, some (.suppressed 1)⟩ ∧
      second.Withholds ("web", { name := "api" }) := by
  refine ⟨_, _, rfl, by decide, rfl, rfl, ?_⟩
  exact ⟨oneFlagged, .suppressed 1, [], [], by rfl, by rfl, by decide⟩

/-- The first of two checks sends a message that nobody gets.  A minute later the second one
withholds the workload, although no message has been delivered, and its recipients could be reached
by then. -/
theorem withheld_though_nobody_was_reached :
    ∃ first second, (performAll unreachableAtFirst aMinuteApart .empty []).1 = [first, second] ∧
      first.context.clock ≤ second.context.clock ∧ second.Withholds ("web", { name := "api" }) ∧
      ¬ ∃ q ∈ [first, second], second.context.clock - q.context.clock < AnnouncementLog.window ∧
        ∃ delivery, q.Tells unreachableAtFirst "web/api" delivery ∧ delivery.delivered ≠ [] := by
  obtain ⟨first, second, made, order, sent, suppressed, withheld⟩ := made_aMinuteApart
  refine ⟨first, second, made, order, withheld, ?_⟩
  rintro ⟨q, mem, -, delivery, ⟨r, s, -, result, -⟩, reached⟩
  rcases List.mem_cons.mp mem with rfl | mem
  · have same := sent.symm.trans result
    simp only [Except.ok.injEq, Result.mk.injEq, Option.some.injEq, Outcome.dispatched.injEq] at same
    exact reached (congrArg Delivery.delivered same.2.2.2.symm)
  · rw [List.mem_singleton.mp mem, suppressed] at result
    simp at result

/-- What the second check relies on is the message of the first one, which has failed for all. -/
theorem withheld_was_sent_a_minute_ago :
    ∃ first second, (performAll unreachableAtFirst aMinuteApart .empty []).1 = [first, second] ∧
      second.Withholds ("web", { name := "api" }) ∧
      ∃ q ∈ [first, second], second.context.clock - q.context.clock < AnnouncementLog.window ∧
        ∃ delivery, q.Tells unreachableAtFirst "web/api" delivery ∧
          q.context.store.recipients ≠ [] ∧
          (served delivery).Perm q.context.store.recipients := by
  obtain ⟨first, second, made, -, -, -, withheld⟩ := made_aMinuteApart
  have split : (performAll unreachableAtFirst aMinuteApart .empty []).1 = [first] ++ second :: [] :=
    made
  obtain ⟨q, mem, recent, delivery, tells, hsome, each, -⟩ :=
    withheld_was_sent unreachableAtFirst aMinuteApart .empty [] split nofun withheld
  exact ⟨first, second, made, withheld, q, mem, recent, delivery, tells, hsome, each⟩

end ClusterWatch.Check

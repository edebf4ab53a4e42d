/-
# What an answer does to a check

A check waits for one answer at a time, and `State.advance?` takes it on by the state and the kind
of the answer together.  `State.Advance` lists the three pairs that lead anywhere.  A check never
begins anew, and one that is made to tell the recipients never ends well without an outcome.
-/
import ClusterWatch.Check

namespace ClusterWatch.Check

/-- `State.Advance purpose c state answer state' log`: the answer leads from `state` to `state'` and
leaves `log` behind. -/
inductive State.Advance (purpose : Purpose) (c : Context) :
    State → Answer → State → AnnouncementLog → Prop
  | usage (result : Except Failure UsageByNamespace) :
      Advance purpose c .collecting (.usage result) (collected c.store result) c.log
  | recommendation {usage : UsageByNamespace} {style : String}
      (result : Except Failure Recommendation) :
      Advance purpose c (.recommending usage style) (.recommendation result)
        (recommended purpose c result).1.state (recommended purpose c result).2
  | sent (d : Dispatch) (result : Except Failure Unit) :
      Advance purpose c (.sending d) (.sent result) (Check.sent d result) c.log

namespace State

variable {purpose : Purpose} {c : Context} {state state' : State} {answer : Answer}
  {log : AnnouncementLog}

theorem Advance.of_advance? (h : state.advance? purpose c answer = some (state', log)) :
    Advance purpose c state answer state' log := by
  unfold advance? at h
  split at h
  · cases h; exact .usage _
  · cases h; exact .recommendation _
  · cases h; exact .sent _ _
  · cases h

end State

theorem Decision.state_ne_collecting (d : Decision) : d.state ≠ .collecting := by
  cases d <;> exact State.noConfusion

theorem State.Advance.ne_collecting {purpose : Purpose} {c : Context} {state state' : State}
    {answer : Answer} {log : AnnouncementLog} (h : Advance purpose c state answer state' log) :
    state' ≠ .collecting := by
  cases h with
  | usage result => cases result <;> exact State.noConfusion
  | recommendation result => exact Decision.state_ne_collecting _
  | sent d result =>
      unfold Check.sent
      split <;> exact State.noConfusion

theorem weigh_finish {c : Context} {r : Recommendation} {result : Except Failure Result}
    (h : (weigh c r).1 = .finish result) : ∃ outcome, result = .ok ⟨r, some outcome⟩ := by
  unfold weigh at h
  split at h
  · dsimp only at h
    split at h
    · cases hr : c.store.recipients with
      | nil =>
          rw [hr] at h
          cases h
          exact ⟨_, rfl⟩
      | cons current waiting => rw [hr] at h; cases h
    · cases h
      exact ⟨_, rfl⟩
  · cases h
    exact ⟨_, rfl⟩

/-- A check that ends well has an outcome if the recipients were to be told. -/
theorem State.Advance.outcome {c : Context} {state : State} {answer : Answer}
    {log : AnnouncementLog} {result : Result}
    (h : Advance .notification c state answer (.finished (.ok result)) log) :
    ∃ outcome, result.outcome = some outcome := by
  generalize hs : State.finished (.ok result) = state' at h
  cases h with
  | usage usage => cases usage <;> cases hs
  | recommendation answer =>
      cases answer with
      | error failure => cases hs
      | ok r =>
          change State.finished (.ok result) = (weigh c r).1.state at hs
          cases hd : (weigh c r).1 with
          | dispatch d => rw [hd] at hs; cases hs
          | finish final =>
              rw [hd] at hs
              cases hs
              obtain ⟨outcome, heq⟩ := weigh_finish hd
              cases heq
              exact ⟨outcome, rfl⟩
  | sent d result =>
      unfold Check.sent at hs
      split at hs
      · cases hs; exact ⟨_, rfl⟩
      · cases hs

end ClusterWatch.Check

/-
# Other tokens in the place of tokens

A token is held in two places: in the settings, and in the messages that are on their way.
`mapToken f` puts `f token` in the place of every `token`, in whatever holds one.

Nothing that a check or a store does looks at a token.  So both go on with other tokens as they
would have gone on, and end up with the other tokens in the same places.  The one thing that puts a
token in the place of another is an update that supplies one, and it is left out.
-/
import ClusterWatch.Proofs.Settings.Supplied
import ClusterWatch.Check

namespace ClusterWatch

variable (f : String → String)

/-! ## Settings -/

/-- The settings with another token. -/
def Settings.mapToken (s : Settings) : Settings := { s with token := f s.token }

def Store.mapToken (s : Store) : Store := { s with settings := s.settings.mapToken f }

namespace Settings.Update

variable {u : Settings.Update} (hnone : u.suppliedToken = none)
include hnone

theorem applyTo_mapToken (s : Settings) : u.applyTo (s.mapToken f) = (u.applyTo s).mapToken f := by
  rw [applyTo_eq, applyTo_eq, hnone]
  rfl

theorem applyTo_mapToken_eq_iff (s : Settings) :
    u.applyTo (s.mapToken f) = s.mapToken f ↔ u.applyTo s = s := by
  rw [applyTo_eq, applyTo_eq, hnone]
  obtain ⟨token, interval, recipients, style⟩ := s
  simp only [mapToken, Option.getD_none, Settings.mk.injEq, true_and]

end Settings.Update

theorem Store.apply_mapToken {u : Settings.Update} (hnone : u.suppliedToken = none) (s : Store) :
    (s.mapToken f).apply u = ((s.apply u).1, (s.apply u).2.mapToken f) := by
  -- `f` may send different tokens to one, so settings may become equal under it.  But the settings
  -- that an update without a token compares have the same token.
  have hiff := Settings.Update.applyTo_mapToken_eq_iff f hnone s.settings
  by_cases same : u.applyTo s.settings = s.settings
  · rw [apply_of_eq same, apply_of_eq (hiff.mpr same)]
  · have differs : u.applyTo (s.mapToken f).settings ≠ (s.mapToken f).settings := mt hiff.mp same
    rw [apply_of_ne same, apply_of_ne differs]
    simp only [mapToken, Settings.Update.applyTo_mapToken f hnone]
    cases s.running <;> rfl

/-! ## Checks -/

namespace Check

def Dispatch.mapToken (d : Dispatch) : Dispatch := { d with credential := f d.credential }

def Call.mapToken : Call → Call
  | .send recipient text credential => .send recipient text (f credential)
  | call => call

def State.mapToken : State → State
  | .sending d => .sending (d.mapToken f)
  | state => state

def Decision.mapToken : Decision → Decision
  | .dispatch d => .dispatch (d.mapToken f)
  | decision => decision

def Context.mapToken (c : Context) : Context := { c with store := c.store.mapToken f }

theorem dispatchTo_mapToken (r : Recommendation) (flagged announced : Nat)
    (text credential : String) (recipients : List Int) :
    dispatchTo r flagged announced text (f credential) recipients =
      (dispatchTo r flagged announced text credential recipients).mapToken f := by
  cases recipients <;> rfl

theorem weigh_mapToken (c : Context) (r : Recommendation) :
    weigh (c.mapToken f) r = ((weigh c r).1.mapToken f, (weigh c r).2) := by
  have same : announce (c.mapToken f) r = announce c r := rfl
  unfold weigh
  by_cases flagged : r.hasFlagged = true
  · by_cases news : (announce c r).1.hasFlagged = true
    · simp only [flagged, same, news, if_true]
      exact congrArg (·, _) (dispatchTo_mapToken f r _ _ _ _ c.store.recipients)
    · simp only [flagged, same, if_neg news, if_true]
      rfl
  · simp only [if_neg flagged]
    rfl

theorem recommended_mapToken (purpose : Purpose) (c : Context)
    (answer : Except Failure Recommendation) :
    recommended purpose (c.mapToken f) answer =
      ((recommended purpose c answer).1.mapToken f, (recommended purpose c answer).2) := by
  cases answer with
  | error failure => rfl
  | ok r =>
      cases purpose with
      | analysis => rfl
      | notification => exact weigh_mapToken f c r

theorem sent_mapToken (d : Dispatch) (answer : Except Failure Unit) :
    sent (d.mapToken f) answer = (sent d answer).mapToken f := by
  obtain ⟨r, flagged, announced, text, credential, current, waiting, delivery⟩ := d
  cases waiting <;> rfl

theorem Decision.state_mapToken (decision : Decision) :
    (decision.mapToken f).state = decision.state.mapToken f := by
  cases decision <;> rfl

theorem advance?_mapToken (purpose : Purpose) (c : Context) (state : State) (answer : Answer) :
    (state.mapToken f).advance? purpose (c.mapToken f) answer =
      (state.advance? purpose c answer).map fun p => (p.1.mapToken f, p.2) := by
  cases state with
  | collecting =>
      cases answer with
      | usage result => cases result <;> rfl
      | recommendation | sent | collapse => rfl
  | recommending usage style =>
      cases answer with
      | recommendation result =>
          simp only [State.mapToken, State.advance?, recommended_mapToken,
            Decision.state_mapToken, Option.map_some]
      | usage | sent | collapse => rfl
  | sending d =>
      cases answer with
      | sent result =>
          simp only [State.mapToken, State.advance?, sent_mapToken, Option.map_some]
          rfl
      | usage | recommendation | collapse => rfl
  | finished result => cases answer <;> rfl

theorem map_advance?_mapToken {α β : Type} {next : State × AnnouncementLog → α}
    {next' : State × AnnouncementLog → β} {g : α → β}
    (each : ∀ state log, next' (state.mapToken f, log) = g (next (state, log))) (purpose : Purpose)
    (c : Context) (state : State) (answer : Answer) :
    ((state.mapToken f).advance? purpose (c.mapToken f) answer).map next' =
      ((state.advance? purpose c answer).map next).map g := by
  rw [advance?_mapToken, Option.map_map, Option.map_map]
  congr 1
  funext p
  exact each p.1 p.2

end Check
end ClusterWatch

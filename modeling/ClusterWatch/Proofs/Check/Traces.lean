/-
# A check that fails leaves no trace

A check changes the log and begins to send once it has decided to announce something, and from then
on it cannot fail (`Committed`): nothing that can fail comes after the first thing that leaves a
trace.  This is shown twice: for collaborators that answer at once, and for a course on which the
settings and the log are changed by others between the answers.
-/
import ClusterWatch.Proofs.Check.FanOut

namespace ClusterWatch.Check

/-! ## Collaborators that answer at once -/

section AtOnce

variable {σ : Type}

/-- A message as it was sent: the recipient, the text and the token. -/
abbrev Message := Int × String × String

/-- The collaborators together with a list of what was sent through them. -/
def Collaborators.recording (c : Collaborators σ) : Collaborators (σ × List Message) where
  collect := fun (far, sent) =>
    let (answer, far) := c.collect far
    (answer, far, sent)
  recommend usage style := fun (far, sent) =>
    let (answer, far) := c.recommend usage style far
    (answer, far, sent)
  send recipient text credential := fun (far, sent) =>
    let (answer, far) := c.send recipient text credential far
    (answer, far, sent ++ [(recipient, text, credential)])

end AtOnce

/-! ## Collaborators that take their time -/

/-- A check is bound to end well: it sends, or it has ended well. -/
def Committed : State → Prop
  | .sending _ | .finished (.ok _) => True
  | .collecting | .recommending .. | .finished (.error _) => False

/-- Whether a question is a message. -/
def Call.isSend : Call → Bool
  | .send .. => true
  | .collect | .recommend .. => false

theorem committed_weigh (context : Context) (r : Recommendation) :
    Committed (weigh context r).1.state := by
  cases decision : (weigh context r).1 with
  | dispatch d => trivial
  | finish result =>
      obtain ⟨outcome, rfl⟩ := weigh_finish decision
      trivial

namespace Course

/-- A check has not sent anything and has left the log as it is. -/
structure Quiet (log : AnnouncementLog) (c : Course) : Prop where
  log : c.log = log
  state : ∀ d, c.state ≠ .sending d
  asked : ∀ call ∈ c.asked, call.isSend = false

variable {purpose : Purpose} {deduplicate : Bool} {c c' : Course} {log : AnnouncementLog}

theorem Quiet.answer (quiet : c.Quiet log) {a : Answer} {clock : Instant}
    (step : c.step purpose deduplicate (.answer a clock) = some c') :
    c'.Quiet log ∨ purpose = .notification ∧ Committed c'.state := by
  obtain ⟨⟨state', log'⟩, advance, rfl⟩ := Option.map_eq_some_iff.mp step
  obtain ⟨store, log₀, state, asked⟩ := c
  obtain rfl := quiet.log
  have quietly : ∀ state', (∀ call ∈ state'.call?, call.isSend = false) →
      (⟨store, log₀, state', asked ++ state'.call?.toList⟩ : Course).Quiet log₀ := by
    intro state' silent
    refine ⟨rfl, ?_, ?_⟩
    · rintro d rfl
      exact absurd (silent _ rfl) (by simp [Call.isSend])
    · intro call mem
      rcases List.mem_append.mp mem with mem | mem
      · exact quiet.asked call mem
      · exact silent call (by simpa using mem)
  dsimp only at advance ⊢
  cases State.Advance.of_advance? advance with
  | usage usage =>
      left
      cases usage <;> exact quietly _ (by simp [collected, State.call?, Call.isSend])
  | recommendation answer =>
      cases answer with
      | error failure => exact Or.inl (quietly (.finished (.error failure)) nofun)
      | ok r =>
          cases purpose with
          | analysis => exact Or.inl (quietly (.finished (.ok ⟨r, none⟩)) nofun)
          | notification =>
              right
              exact ⟨rfl, committed_weigh _ r⟩
  | sent d => exact absurd rfl (quiet.state d)

end Course
end ClusterWatch.Check

/-
# A check in one go

A check is told twice: `State.advance?` takes it from one answer to the next, as the scheduler needs
it, and `perform` makes it in one go with collaborators that answer at once.  Put to the same
collaborators the steps come to an end (`leads_perform`), and to no other end than `perform`
(`leads_finished_iff`), so what is known of one is known of the other.  The log is threaded through
the steps; settings and clock stand still.
-/
import ClusterWatch.Proofs.Check.News

namespace ClusterWatch.Check

variable {σ : Type} (c : Collaborators σ) (purpose : Purpose) (context : Context)

def Collaborators.answer (s : σ) : Call → Answer × σ
  | .collect => ((.usage (c.collect s).1), (c.collect s).2)
  | .recommend usage style =>
      (.recommendation (c.recommend usage style s).1, (c.recommend usage style s).2)
  | .send recipient text credential =>
      (.sent (c.send recipient text credential s).1, (c.send recipient text credential s).2)

/-- A check goes from one state, with the log and the collaborators as they are, to another one. -/
inductive Leads : State × AnnouncementLog × σ → State × AnnouncementLog × σ → Prop
  | done (p : State × AnnouncementLog × σ) : Leads p p
  | step {state state' : State} {log log' : AnnouncementLog} {s : σ} {call : Call}
      {p : State × AnnouncementLog × σ} (asks : state.call? = some call)
      (goes : state.advance? purpose { context with log } (c.answer s call).1 = some (state', log'))
      (rest : Leads (state', log', (c.answer s call).2) p) : Leads (state, log, s) p

theorem leads_sendAll (d : Dispatch) (log : AnnouncementLog) (s : σ) :
    Leads c purpose context (.sending d, log, s)
      (.finished (.ok ⟨d.recommendation, some (.dispatched d.flagged d.announced
          (sendAll c d.text d.credential (d.current :: d.waiting) d.delivery s).1)⟩),
        log, (sendAll c d.text d.credential (d.current :: d.waiting) d.delivery s).2) := by
  obtain ⟨r, flagged, announced, text, credential, current, waiting, delivery⟩ := d
  induction waiting generalizing current delivery s with
  | nil => exact .step rfl rfl (.done _)
  | cons next waiting ih =>
      exact .step rfl rfl (ih (c.send current text credential s).2 next (delivery.add current _))

theorem leads_carryOut (decision : Decision) (log : AnnouncementLog) (s : σ) :
    Leads c purpose context (decision.state, log, s)
      (.finished (decision.carryOut c s).1, log, (decision.carryOut c s).2) := by
  cases decision with
  | finish result => exact .done _
  | dispatch d => exact leads_sendAll c purpose context d log s

theorem leads_perform (s : σ) :
    Leads c purpose context (.collecting, context.log, s)
      (.finished (perform c purpose context s).1, (perform c purpose context s).2) := by
  refine .step rfl rfl ?_
  rcases hcollect : c.collect s with ⟨failure | usage, s₁⟩
  · simp only [Collaborators.answer, perform, hcollect]
    exact .done _
  · rw [perform_eq_carryOut c purpose hcollect rfl]
    simp only [Collaborators.answer, hcollect]
    exact .step rfl rfl (leads_carryOut c purpose context _ _ _)

variable {c purpose context}

theorem Leads.end_unique {p : State × AnnouncementLog × σ} {r r' : Except Failure Result}
    {log log' : AnnouncementLog} {s s' : σ} (h : Leads c purpose context p (.finished r, log, s))
    (h' : Leads c purpose context p (.finished r', log', s')) :
    r = r' ∧ log = log' ∧ s = s' := by
  generalize finished : ((.finished r, log, s) : State × AnnouncementLog × σ) = q at h
  induction h with
  | done =>
      subst finished
      cases h' with
      | done => exact ⟨rfl, rfl, rfl⟩
      | step asks => cases asks
  | step asks goes _ ih =>
      cases h' with
      | done => cases asks
      | step asks' goes' rest' =>
          cases asks.symm.trans asks'
          cases goes.symm.trans goes'
          exact ih rest' finished

/-- The end of a check, step by step, is the one that it has in one go. -/
theorem leads_finished_iff {s s' : σ} {r : Except Failure Result} {log : AnnouncementLog} :
    Leads c purpose context (.collecting, context.log, s) (.finished r, log, s') ↔
      perform c purpose context s = (r, log, s') := by
  constructor
  · intro h
    obtain ⟨rfl, rfl, rfl⟩ := h.end_unique (leads_perform c purpose context s)
    rfl
  · intro h
    have whole := leads_perform c purpose context s
    rwa [h] at whole

end ClusterWatch.Check

/-
# The service and those who deal with it

Clients send requests, the exporter and the model answer questions, and messages go to the chat
service.  A desk is the service together with the requests that wait for a check, and everything
that happens to it is one of these:

    request     a client sends a request, which is answered or waits for a check
    answer      the check that a request waits for gets an answer, and possibly ends
    leave       a client leaves, and the check that its request waits for goes with it
    task        the check of a task of the scheduler gets an answer
    scheduler   the scheduler goes on by itself, time passes, or the service shuts down

Requests, answers and the scheduler come in any order.  The answer to a message is what the channel
makes of the network that the message finds, so the token has to be given to the channel for it.

A request that is alone, with questions that are answered at once, comes out as if it was handled in
one go (`run_of_handle`).
-/
import ClusterWatch.Proofs.Admin.Requests
import ClusterWatch.Proofs.Check.Stepwise
import ClusterWatch.Telegram

namespace ClusterWatch

/-- Whether an event belongs to the scheduler and its surroundings alone. -/
def Scheduler.Event.isOwn : Scheduler.Event → Bool
  | .start _ | .supervise _ | .resume .. | .shutdown | .wait _ => true
  | .answer .. | .update _ => false

/-- Where the check of a task stands, if it is under way. -/
def Scheduler.Work.check? : Scheduler.Work → Option Check.State
  | .check _ _ state => some state
  | _ => none

namespace Admin

/-- What comes of a question: a result of the exporter or the model, the network that a message
finds, or the end of the check. -/
inductive Reply where
  | usage (result : Except Failure UsageByNamespace)
  | recommendation (result : Except Failure Recommendation)
  | network (net : Http.Network)
  | collapse

/-- The answer that a check gets from a reply. -/
def Reply.answer? (chat : Telegram) : Reply → Check.State → Option Check.Answer
  | .usage result, _ => some (.usage result)
  | .recommendation result, _ => some (.recommendation result)
  | .network net, .sending d => some (.sent (chat.send d.current d.text d.credential net).1)
  | .network _, _ => none
  | .collapse, _ => some .collapse

/-- A request that waits for the check that it has asked for. -/
structure Waiting where
  number : Nat
  request : Request
  purpose : Check.Purpose
  state : Check.State

/-- The service, the requests that wait, and the number of the next request. -/
structure Desk where
  service : Service
  waiting : List Waiting := []
  next : Nat := 0

namespace Desk

inductive Event where
  | request (request : Request)
  | answer (number : Nat) (reply : Reply) (clock : Instant)
  | leave (number : Nat)
  | task (task : Scheduler.TaskId) (reply : Reply) (first : Scheduler.Priority) (clock : Instant)
  | scheduler (e : Scheduler.Event)

/-- The end of a request: its number, and the response if there is one. -/
structure Ending where
  number : Nat
  response : Option Response

/-- The desk after something has happened, and the requests that have come to their end. -/
abbrev Outcome := Desk × List Ending

/-- The request of a number, if it waits. -/
def find? (d : Desk) (number : Nat) : Option Waiting := d.waiting.find? fun w => w.number == number

def drop (d : Desk) (number : Nat) : Desk :=
  { d with waiting := d.waiting.filter fun w => w.number != number }

def await (d : Desk) (w : Waiting) : Desk := { d with waiting := d.waiting ++ [w] }

def take (d : Desk) (request : Request) : Outcome :=
  let d' (service : Service) : Desk := { d with service, next := d.next + 1 }
  match d.service.react request with
  | (.respond r, service) => (d' service, [⟨d.next, some (service.sentTo request r)⟩])
  | (.check purpose, service) => ((d' service).await ⟨d.next, request, purpose, .collecting⟩, [])
  | (.collapse, service) => (d' service, [⟨d.next, none⟩])

/-- The desk with a request whose check has reached a state. -/
def settle (d : Desk) (w : Waiting) : Check.State → Outcome
  | .finished result =>
      (d.drop w.number,
        [⟨w.number, some (d.service.sentTo w.request (Service.responseTo result))⟩])
  | state => ((d.drop w.number).await { w with state }, [])

def proceed (d : Desk) (chat : Telegram) (w : Waiting) (reply : Reply) (clock : Instant) :
    Option Outcome :=
  (reply.answer? chat w.state).bind fun answer =>
    match answer with
    | .collapse => some (d.drop w.number, [⟨w.number, none⟩])
    | answer =>
      (w.state.advance? w.purpose (d.service.context clock) answer).map fun (state, log) =>
        { d with service := d.service.withLog log }.settle w state

def schedule (d : Desk) (e : Scheduler.Event) : Option Outcome :=
  (d.service.system.step e).map fun (system, _) => ({ d with service.system := system }, [])

/-- The step of an event, if it makes sense. -/
def step (d : Desk) (chat : Telegram) : Event → Option Outcome
  | .request request => some (d.take request)
  | .answer number reply clock => (d.find? number).bind fun w => d.proceed chat w reply clock
  | .leave number => some (d.drop number, [])
  | .task id reply first clock =>
      ((d.service.system.task? id).bind fun t => t.work.check?).bind fun state =>
        (reply.answer? chat state).bind fun answer => d.schedule (.answer id answer first clock)
  | .scheduler e => if e.isOwn then d.schedule e else none

/-- The desk after a list of events, and the requests that have come to their end, in order. -/
def run (d : Desk) (chat : Telegram) : List Event → Option Outcome
  | [] => some (d, [])
  | e :: es => do
      let (d, endings) ← d.step chat e
      let (d, more) ← run d chat es
      return (d, endings ++ more)

theorem run_cons_of_none {d : Desk} {chat : Telegram} {e : Event} (step : d.step chat e = none)
    (es : List Event) : d.run chat (e :: es) = none := by
  simp only [run, step]
  rfl

theorem run_cons_of_some {d d' : Desk} {chat : Telegram} {e : Event} {endings : List Ending}
    (step : d.step chat e = some (d', endings)) (es : List Event) :
    d.run chat (e :: es) = (d'.run chat es).map fun o => (o.1, endings ++ o.2) := by
  simp only [run, step]
  show (d'.run chat es).bind _ = _
  cases d'.run chat es <;> rfl

/-! ## The configuration of the server -/

theorem config_putFilter (s : Service) (request : Request) :
    (s.putFilter request).2.config = s.config := by
  unfold Service.putFilter
  split
  · rfl
  dsimp only
  split
  · rfl
  split
  · rfl
  split <;> rfl

theorem config_updateSettings (s : Service) (request : Request) :
    (s.updateSettings request).2.config = s.config := by
  unfold Service.updateSettings
  split
  · rfl
  split <;> rfl

theorem config_react (s : Service) (request : Request) :
    (s.react request).2.config = s.config := by
  have reacts := s.reacts request
  generalize s.react request = p at reacts ⊢
  cases reacts with
  | tells | checks => rfl
  | updates => exact config_updateSettings s request
  | filters => exact config_putFilter s request

variable {d d' : Desk} {chat : Telegram} {e : Event} {endings : List Ending}

theorem config_step (step : d.step chat e = some (d', endings)) :
    d'.service.config = d.service.config := by
  have schedules {e : Scheduler.Event} (step : d.schedule e = some (d', endings)) :
      d'.service.config = d.service.config := by
    obtain ⟨p, -, same⟩ := Option.map_eq_some_iff.mp step
    cases same
    rfl
  cases e with
  | request request =>
      have config := config_react d.service request
      have taken : d.take request = (d', endings) := Option.some.inj step
      unfold take at taken
      dsimp only at taken
      split at taken <;> rename_i reaction <;> rw [reaction] at config <;> cases taken <;>
        exact config
  | answer number reply clock =>
      obtain ⟨w, -, step⟩ := Option.bind_eq_some_iff.mp step
      obtain ⟨answer, -, step⟩ := Option.bind_eq_some_iff.mp step
      split at step
      · cases step
        rfl
      · obtain ⟨⟨state, log⟩, -, step⟩ := Option.map_eq_some_iff.mp step
        unfold settle at step
        dsimp only at step
        split at step <;> cases step <;> rfl
  | leave number =>
      cases step
      rfl
  | task id reply first clock =>
      obtain ⟨state, -, step⟩ := Option.bind_eq_some_iff.mp step
      obtain ⟨answer, -, step⟩ := Option.bind_eq_some_iff.mp step
      exact schedules step
  | scheduler e =>
      unfold Desk.step at step
      dsimp only at step
      split at step
      · exact schedules step
      · cases step

/-! ## A request with nobody else around -/

theorem proceed_of_advance {d : Desk} {w : Waiting} {reply : Reply} {clock : Instant}
    {answer : Check.Answer} {state : Check.State} {log : AnnouncementLog}
    (gets : reply.answer? chat w.state = some answer)
    (goes : w.state.advance? w.purpose (d.service.context clock) answer = some (state, log)) :
    d.proceed chat w reply clock =
      some (settle { d with service := d.service.withLog log } w state) := by
  unfold proceed
  rw [gets]
  cases answer with
  | collapse =>
      have nowhere := Check.State.Advance.of_advance? goes
      generalize w.state = hfrom at nowhere
      cases nowhere
  | usage | recommendation | sent =>
      dsimp only [Option.bind_some]
      rw [goes]
      rfl

section Alone

variable {c : Check.Collaborators Http.Network} (channel : c.send = chat.send)
include channel

theorem exists_reply {state : Check.State} {call : Check.Call} (asks : state.call? = some call)
    (net : Http.Network) :
    ∃ reply : Reply, reply.answer? chat state = some (c.answer net call).1 := by
  cases state with
  | collecting =>
      cases asks
      exact ⟨.usage (c.collect net).1, rfl⟩
  | recommending usage style =>
      cases asks
      exact ⟨.recommendation (c.recommend usage style net).1, rfl⟩
  | sending d =>
      cases asks
      refine ⟨.network net, ?_⟩
      simp only [Reply.answer?, Check.Collaborators.answer, channel]
  | finished => cases asks

theorem run_of_leads {s : Service} {number next : Nat} {request : Request} {clock : Instant}
    {purpose : Check.Purpose} {p q : Check.State × AnnouncementLog × Http.Network}
    (leads : Check.Leads c purpose (s.context clock) p q) (hopen : ∀ result, p.1 ≠ .finished result)
    {result : Except Failure Check.Result} (ended : q.1 = .finished result) :
    ∃ es, (∀ e ∈ es, ∃ reply, e = .answer number reply clock) ∧
      run ⟨s.withLog p.2.1, [⟨number, request, purpose, p.1⟩], next⟩ chat es =
        some (⟨s.withLog q.2.1, [], next⟩,
          [⟨number, some (s.sentTo request (Service.responseTo result))⟩]) := by
  induction leads with
  | done => exact absurd ended (hopen result)
  | @step state state' log log' net call q asks goes rest ih =>
      obtain ⟨reply, gets⟩ := exists_reply channel asks net
      let w : Waiting := ⟨number, request, purpose, state⟩
      let d : Desk := ⟨s.withLog log, [w], next⟩
      have first : d.step chat (.answer number reply clock) =
          some (settle { d with service := s.withLog log' } w state') := by
        have found : d.find? number = some w := by simp [d, w, find?]
        have proceeds : d.proceed chat w reply clock = _ := proceed_of_advance gets goes
        simp only [step, found, Option.bind_some, proceeds]
        rfl
      by_cases hends : ∃ result, state' = .finished result
      · obtain ⟨result', rfl⟩ := hends
        refine ⟨[.answer number reply clock], by simp, ?_⟩
        cases rest with
        | step asks => cases asks
        | done =>
            cases ended
            rw [run_cons_of_some first]
            simp [drop, run, d, w]
            rfl
      · have open' : ∀ result, state' ≠ .finished result := not_exists.mp hends
        obtain ⟨es, answers, hrun⟩ := ih open' ended
        refine ⟨.answer number reply clock :: es, ?_, ?_⟩
        · intro e mem
          rcases List.mem_cons.mp mem with rfl | mem
          · exact ⟨reply, rfl⟩
          · exact answers e mem
        · have settled : settle { d with service := s.withLog log' } w state' =
              (⟨s.withLog log', [⟨number, request, purpose, state'⟩], next⟩, []) := by
            cases state' with
            | finished result => exact absurd rfl (open' result)
            | collecting | recommending | sending => simp [settle, drop, await, d, w]
          rw [run_cons_of_some (first.trans (congrArg some settled)), hrun]
          rfl

/-- A request that is alone, and whose check has its questions answered at once, comes out as if it
was handled in one go. -/
theorem run_of_handle (clock : Instant) (s : Service) (request : Request) (net : Http.Network) :
    ∃ es, (∀ e ∈ es, ∃ reply, e = .answer 0 reply clock) ∧
      run { service := s } chat (.request request :: es) =
        some (⟨(s.handle c clock request net).2.1, [], 1⟩,
          [⟨0, (s.handle c clock request net).1⟩]) := by
  rcases reaction : s.react request with ⟨r | purpose | _, s'⟩
  · exact ⟨[], by simp, by simp [run, step, take, reaction, Service.handle]⟩
  · obtain ⟨es, answers, hrun⟩ :
        ∃ es, (∀ e ∈ es, ∃ reply, e = .answer 0 reply clock) ∧
          run ⟨s', [⟨0, request, purpose, .collecting⟩], 1⟩ chat es = _ :=
      run_of_leads channel (Check.leads_perform c purpose (s'.context clock) net) (by simp) rfl
    have taken : Desk.step { service := s } chat (.request request) =
        some (⟨s', [⟨0, request, purpose, .collecting⟩], 1⟩, []) := by
      simp [step, take, reaction, await]
    refine ⟨es, answers, ?_⟩
    rw [run_cons_of_some taken, hrun]
    simp only [Service.handle, reaction]
    rfl
  · exact ⟨[], by simp, by simp [run, step, take, reaction, Service.handle]⟩

end Alone

end Desk
end Admin
end ClusterWatch

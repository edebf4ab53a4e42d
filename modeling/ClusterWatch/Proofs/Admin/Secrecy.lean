/-
# Clients learn no more of the token than its mask

Two desks that differ in nothing but the stored token answer alike, as long as the masks of the two
tokens are the same and messages can be sent with either of them.

Instead of comparing two runs, one run is looked at in disguise.  Let `f` replace the one token by
the other wherever it is held (`Desk.mapToken`).  Such an `f` keeps masks and the answers of the
chat service (`Disguises`), so a desk and the disguised desk answer every event alike and the
disguise stays on (`step_mapToken`).  The two desks look the same under `f`, and so they answer
alike.

None of the conditions can be left out.  The mask is shown to whoever gets the settings.  An address
that is too long for a request makes a message fail in a way of its own, and the failure is told to
whoever has asked for the check.  After a request that supplies a token the two desks hold the same
one, and the response tells whether that was a change.
-/
import ClusterWatch.Proofs.Admin.Desk
import ClusterWatch.Proofs.Scheduler.Tokens
import ClusterWatch.Proofs.Telegram

namespace ClusterWatch

open Settings (maskToken)

namespace Admin

variable (f : String → String)

def Service.mapToken (s : Service) : Service := { s with system := s.system.mapToken f }

def Waiting.mapToken (w : Waiting) : Waiting := { w with state := w.state.mapToken f }

def Desk.mapToken (d : Desk) : Desk :=
  { d with service := d.service.mapToken f, waiting := d.waiting.map (Waiting.mapToken f) }

/-- A replacement of tokens that nobody notices who sees a mask or the fate of a message. -/
structure Disguises (chat : Telegram) (f : String → String) : Prop where
  mask : ∀ token, maskToken (f token) = maskToken token
  send : ∀ recipient text token net,
    (chat.send recipient text (f token) net).1 = (chat.send recipient text token net).1

def Request.SuppliesToken (limit : Nat) (request : Request) : Prop :=
  request.method = "POST" ∧ request.target.path = "/api/alerts/config".toList ∧
    ∃ u, request.readBody limit Settings.Update.read = .ok u ∧ u.suppliedToken ≠ none

/-! ## Requests -/

namespace Service

variable {f} {s : Service} {request : Request}

theorem view_mapToken (mask : ∀ token, maskToken (f token) = maskToken token) (s : Store) :
    (s.mapToken f).snapshot.view = s.snapshot.view := by
  have shown : maskToken (s.mapToken f).snapshot.token = maskToken s.snapshot.token := mask _
  unfold Snapshot.view
  rw [shown]
  rfl

theorem updateSettings_mapToken
    (keeps : ∀ u, request.readBody s.config.bodyLimit Settings.Update.read = .ok u →
      u.suppliedToken = none) :
    (s.mapToken f).updateSettings request =
      ((s.updateSettings request).1, (s.updateSettings request).2.mapToken f) := by
  have config : (s.mapToken f).config = s.config := rfl
  unfold updateSettings
  rw [config]
  cases body : request.readBody s.config.bodyLimit Settings.Update.read with
  | error fault => rfl
  | ok u =>
      have applied := Store.apply_mapToken f (keeps u body) s.system.store
      have store : (s.mapToken f).system.store = s.system.store.mapToken f := rfl
      dsimp only
      rw [store, applied]
      split <;> rfl

theorem putFilter_mapToken :
    (s.mapToken f).putFilter request =
      ((s.putFilter request).1, (s.putFilter request).2.mapToken f) := by
  have config : (s.mapToken f).config = s.config := rfl
  have filter : (s.mapToken f).filter = s.filter := rfl
  unfold putFilter
  rw [config, filter]
  split
  · rfl
  dsimp only
  split
  · rfl
  split
  · rfl
  split <;> rfl

theorem serve_mapToken (mask : ∀ token, maskToken (f token) = maskToken token)
    {resource : Resource} {verb : Verb}
    (path : request.target.path = resource.path.toList) (mem : verb ∈ resource.verbs)
    (method : request.method ∈ Resource.methodsOf verb)
    (keeps : ¬request.SuppliesToken s.config.bodyLimit) :
    (s.mapToken f).serve resource verb request =
      ((s.serve resource verb request).1, (s.serve resource verb request).2.mapToken f) := by
  cases resource with
  | settings =>
      cases verb with
      | get =>
          have view := view_mapToken mask s.system.store
          exact congrArg (fun view => (Reaction.respond (.json 200 view), s.mapToken f)) view
      | post =>
          have post : request.method = "POST" := by
            simpa [Resource.methodsOf, Verb.name] using method
          have updates : (s.mapToken f).updateSettings request =
              ((s.updateSettings request).1, (s.updateSettings request).2.mapToken f) := by
            refine updateSettings_mapToken ?_
            intro u body
            by_contra hsome
            exact keeps ⟨post, path, u, body, hsome⟩
          exact congrArg (fun p : Response × Service => (Reaction.respond p.1, p.2)) updates
      | put => simp [Resource.verbs] at mem
  | logging =>
      cases verb with
      | get => rfl
      | put => exact putFilter_mapToken
      | post => simp [Resource.verbs] at mem
  | analysis | status | health | readiness | liveness => cases verb <;> rfl

/-- A request that supplies no token is reacted to alike. -/
theorem react_mapToken (mask : ∀ token, maskToken (f token) = maskToken token)
    (keeps : ¬request.SuppliesToken s.config.bodyLimit) :
    (s.mapToken f).react request =
      ((s.react request).1, (s.react request).2.mapToken f) := by
  have preflight : (s.mapToken f).isPreflight request = s.isPreflight request := rfl
  unfold react
  rw [preflight]
  split
  · rfl
  rcases route_cases request with ⟨r, refused⟩ | ⟨resource, verb, path, mem, method, served⟩
  · rw [refused, refused]
  · rw [served, served]
    exact serve_mapToken mask path mem method keeps

end Service

/-! ## The desk -/

theorem Reply.answer?_mapToken {f : String → String} {chat : Telegram}
    (disguises : Disguises chat f) (reply : Reply) (state : Check.State) :
    reply.answer? chat (state.mapToken f) = reply.answer? chat state := by
  cases reply with
  | usage | recommendation | collapse => cases state <;> rfl
  | network net =>
      cases state with
      | collecting | recommending | finished => rfl
      | sending d =>
          have fate := disguises.send d.current d.text d.credential net
          exact congrArg (fun fate => some (Check.Answer.sent fate)) fate

namespace Desk

def Event.SuppliesToken (limit : Nat) (e : Event) : Prop :=
  ∃ request, e = .request request ∧ request.SuppliesToken limit

def Outcome.mapToken (o : Outcome) : Outcome := (o.1.mapToken f, o.2)

section Disguise

variable {f} {chat : Telegram} (d : Desk)

theorem find?_mapToken (number : Nat) :
    (d.mapToken f).find? number = (d.find? number).map (Waiting.mapToken f) := by
  show (d.waiting.map (Waiting.mapToken f)).find? _ = _
  rw [List.find?_map]
  rfl

theorem drop_mapToken (number : Nat) : (d.mapToken f).drop number = (d.drop number).mapToken f := by
  have waiting : (d.waiting.map (Waiting.mapToken f)).filter (fun w => w.number != number) =
      (d.waiting.filter fun w => w.number != number).map (Waiting.mapToken f) := List.filter_map
  exact congrArg (fun waiting => { d.mapToken f with waiting }) waiting

theorem await_mapToken (w : Waiting) :
    (d.mapToken f).await (w.mapToken f) = (d.await w).mapToken f := by
  simp only [await, mapToken, List.map_append]
  rfl

theorem settle_mapToken (w : Waiting) (state : Check.State) :
    (d.mapToken f).settle (w.mapToken f) (state.mapToken f) =
      Outcome.mapToken f (d.settle w state) := by
  have dropped : (d.mapToken f).drop (w.mapToken f).number = (d.drop w.number).mapToken f :=
    d.drop_mapToken w.number
  have awaited : ((d.drop w.number).mapToken f).await (Waiting.mapToken f { w with state }) = _ :=
    await_mapToken (d.drop w.number) { w with state }
  cases state with
  | collecting | recommending | sending =>
      simp only [settle, Check.State.mapToken, dropped]
      exact congrArg (·, []) awaited
  | finished result =>
      simp only [settle, Check.State.mapToken, dropped]
      rfl

theorem schedule_mapToken {e : Scheduler.Event} (hnone : e.suppliedToken = none) :
    (d.mapToken f).schedule e = (d.schedule e).map (Outcome.mapToken f) := by
  have step := Scheduler.System.step_mapToken f d.service.system hnone
  have system : (d.mapToken f).service.system = d.service.system.mapToken f := rfl
  simp only [schedule, system, step, Option.map_map]
  rfl

variable (disguises : Disguises chat f)
include disguises

theorem take_mapToken {request : Request}
    (keeps : ¬request.SuppliesToken d.service.config.bodyLimit) :
    (d.mapToken f).take request = Outcome.mapToken f (d.take request) := by
  have reaction : (d.mapToken f).service.react request =
      ((d.service.react request).1, (d.service.react request).2.mapToken f) :=
    Service.react_mapToken disguises.mask keeps
  unfold take
  dsimp only
  rw [reaction]
  rcases d.service.react request with ⟨r | purpose | _, service⟩
  · rfl
  · exact congrArg (·, []) (await_mapToken { d with service, next := d.next + 1 }
      ⟨d.next, request, purpose, .collecting⟩)
  · rfl

theorem proceed_mapToken (w : Waiting) (reply : Reply) (clock : Instant) :
    (d.mapToken f).proceed chat (w.mapToken f) reply clock =
      (d.proceed chat w reply clock).map (Outcome.mapToken f) := by
  unfold proceed
  rw [show (w.mapToken f).state = w.state.mapToken f from rfl, reply.answer?_mapToken disguises]
  cases reply.answer? chat w.state with
  | none => rfl
  | some answer =>
      cases answer with
      | collapse =>
          show some ((d.mapToken f).drop w.number, _) = some _
          rw [drop_mapToken]
          rfl
      | usage | recommendation | sent =>
          refine Check.map_advance?_mapToken f ?_ w.purpose (d.service.context clock) w.state _
          intro state log
          exact settle_mapToken { d with service := d.service.withLog log } w state

/-- An event that supplies no token leads to the same endings, whatever the tokens are. -/
theorem step_mapToken {e : Event} (keeps : ¬e.SuppliesToken d.service.config.bodyLimit) :
    (d.mapToken f).step chat e = (d.step chat e).map (Outcome.mapToken f) := by
  cases e with
  | request request =>
      have silent : ¬request.SuppliesToken d.service.config.bodyLimit := by
        intro supplies
        exact keeps ⟨request, rfl, supplies⟩
      exact congrArg some (d.take_mapToken disguises silent)
  | answer number reply clock =>
      simp only [step, find?_mapToken]
      cases d.find? number with
      | none => rfl
      | some w => exact d.proceed_mapToken disguises w reply clock
  | leave number =>
      show some ((d.mapToken f).drop number, _) = some _
      rw [drop_mapToken]
      rfl
  | task id reply first clock =>
      have task : (d.mapToken f).service.system.task? id =
          (d.service.system.task? id).map (Scheduler.Task.mapToken f) :=
        d.service.system.task?_mapToken f id
      simp only [step, task]
      cases d.service.system.task? id with
      | none => rfl
      | some t =>
          obtain ⟨id, generation, work⟩ := t
          cases work with
          | freshSweep | sweep | freshCheck | idle => rfl
          | check ticker interval state =>
              show ((reply.answer? chat (state.mapToken f)).bind fun answer =>
                (d.mapToken f).schedule _) = _
              rw [reply.answer?_mapToken disguises]
              show _ = Option.map _ ((reply.answer? chat state).bind _)
              cases reply.answer? chat state with
              | none => rfl
              | some answer => exact d.schedule_mapToken rfl
  | scheduler e =>
      simp only [step]
      cases own : e.isOwn with
      | false => rfl
      | true =>
          have hnone : e.suppliedToken = none := by
            cases e with
            | update => cases own
            | start | supervise | resume | answer | shutdown | wait => rfl
          exact d.schedule_mapToken hnone

theorem run_mapToken {es : List Event}
    (keeps : ∀ e ∈ es, ¬e.SuppliesToken d.service.config.bodyLimit) :
    (d.mapToken f).run chat es = (d.run chat es).map (Outcome.mapToken f) := by
  induction es generalizing d with
  | nil => rfl
  | cons e es ih =>
      have disguised := d.step_mapToken disguises (keeps e List.mem_cons_self)
      cases step : d.step chat e with
      | none =>
          rw [step] at disguised
          rw [run_cons_of_none disguised, run_cons_of_none step]
          rfl
      | some p =>
          obtain ⟨d', endings⟩ := p
          -- What supplies a token depends on the limit of bodies, which no event touches.
          have later : ∀ e ∈ es, ¬e.SuppliesToken d'.service.config.bodyLimit := by
            rw [config_step step]
            exact fun e mem => keeps e (List.mem_cons_of_mem _ mem)
          rw [step] at disguised
          rw [run_cons_of_some disguised, run_cons_of_some step, ih d' later, Option.map_map,
            Option.map_map]
          rfl

end Disguise

/-! ## The main statement -/

def token (d : Desk) : String := d.service.system.store.settings.token

def withToken (d : Desk) (token : String) : Desk :=
  { d with service.system.store.settings.token := token }

theorem mapToken_withToken {d : Desk} {token : String} (same : f token = f d.token) :
    (d.withToken token).mapToken f = d.mapToken f :=
  congrArg (fun token => { d.mapToken f with service.system.store.settings.token := token }) same

/-- One token in the place of another is a disguise. -/
theorem disguises_of_mask {chat : Telegram} {token token' : String}
    (mask : maskToken token' = maskToken token) (reaches : chat.Reaches token)
    (reaches' : chat.Reaches token') :
    Disguises chat fun c => if c = token' then token else c := by
  constructor
  · intro c
    by_cases same : c = token'
    · rw [if_pos same, same, mask]
    · rw [if_neg same]
  · intro recipient text c net
    by_cases same : c = token'
    · rw [if_pos same, same, Telegram.send_of_reaches reaches, Telegram.send_of_reaches reaches']
    · rw [if_neg same]

/-- Whatever happens to a desk with one token or with another, clients get the same responses in the
same order, if the masks of the two tokens are the same, messages can be sent with both, and no
client supplies a token.  What happens includes what comes of each message, be it a reply of any
kind or none. -/
theorem responses_hide_token (chat : Telegram) (d : Desk) (token : String) (es : List Event)
    (mask : maskToken token = maskToken d.token) (reaches : chat.Reaches d.token)
    (reaches' : chat.Reaches token)
    (keeps : ∀ e ∈ es, ¬e.SuppliesToken d.service.config.bodyLimit) :
    ((d.withToken token).run chat es).map Prod.snd = (d.run chat es).map Prod.snd := by
  let f (c : String) : String := if c = token then d.token else c
  have disguises : Disguises chat f := disguises_of_mask mask reaches reaches'
  have same : f token = f d.token := by
    show (if token = token then d.token else token) = if d.token = token then d.token else d.token
    rw [if_pos rfl, ite_self]
  have endings (d : Desk) (keeps : ∀ e ∈ es, ¬e.SuppliesToken d.service.config.bodyLimit) :
      ((d.mapToken f).run chat es).map Prod.snd = (d.run chat es).map Prod.snd := by
    rw [d.run_mapToken disguises keeps, Option.map_map]
    rfl
  calc ((d.withToken token).run chat es).map Prod.snd
      _ = (((d.withToken token).mapToken f).run chat es).map Prod.snd :=
        (endings (d.withToken token) keeps).symm
      _ = ((d.mapToken f).run chat es).map Prod.snd := by rw [mapToken_withToken f same]
      _ = (d.run chat es).map Prod.snd := endings d keeps

def getting (path : String) : Request where
  method := "GET"
  target := { path := path.toList }

/-- A request to tell two recipients, with a token that is none. -/
def telling : Request where
  method := "POST"
  target := { path := "/api/alerts/config".toList }
  headers := [("content-type", "application/json")]
  body := "\x7b\"token\":\"\",\"chatIDs\":[2,1]\x7d".toUTF8.data.toList

/-- A client asks for a check that is to be told, and the scheduler makes one at the same time.
Before the recommendations arrive there are two recipients.  The chat service cannot be reached for
the first of them and refuses the message to the other. -/
def busyDay : List Event :=
  [.request (getting "/api/alerts/config"), .scheduler (.start false),
    .scheduler (.supervise .work), .request Service.notifying, .scheduler (.resume 1 .work 0),
    .answer 1 (.usage (.ok .empty)) 0, .task 1 (.usage (.ok .empty)) .work 0, .request telling,
    .answer 1 (.recommendation (.ok Check.twiceFlagged)) 0,
    .task 1 (.recommendation (.ok Check.twiceFlagged)) .work 0,
    .answer 1 (.network ⟨[], false, []⟩) 0, .answer 1 (.network ⟨[⟨403, []⟩], true, []⟩) 0,
    .request (getting "/api/alerts/status")]

theorem busyDay_supplies_none (limit : Nat) : ∀ e ∈ busyDay, ¬e.SuppliesToken limit := by
  rintro e mem ⟨request, rfl, post, path, u, body, hsome⟩
  have requests : request = getting "/api/alerts/config" ∨ request = Service.notifying ∨
      request = telling ∨ request = getting "/api/alerts/status" := by
    simpa [busyDay] using mem
  rcases requests with rfl | rfl | rfl | rfl
  · exact absurd post (by decide)
  · exact absurd path (by decide)
  · obtain ⟨-, read⟩ := Service.readBody_eq_ok body
    have text : Json.textOf telling.body = "\x7b\"token\":\"\",\"chatIDs\":[2,1]\x7d".toList :=
      Json.textOf_toUTF8 _
    rw [Json.readBytes, text] at read
    cases read
    exact hsome rfl
  · exact absurd post (by decide)

/-- Four responses, each the same with one token as with the other. -/
theorem busyDay_hides_token :
    let chat := Telegram.new "http://chat" "http://dashboard"
    let d := ({ service := Service.idle } : Desk).withToken "12345678:secret"
    ((d.withToken "12345678:hidden").run chat busyDay).map Prod.snd =
        (d.run chat busyDay).map Prod.snd ∧
      (d.run chat busyDay).map (fun o => o.2.map fun e => (e.number, e.response.map (·.status))) =
        some [(0, some 200), (2, some 200), (1, some 200), (3, some 200)] := by
  intro chat d
  refine ⟨?_, by decide +kernel⟩
  exact responses_hide_token chat d "12345678:hidden" busyDay (by decide)
    (by decide +kernel) (by decide +kernel) (busyDay_supplies_none _)

end Desk
end Admin
end ClusterWatch

/-
# The requests of checks

What a check asks of the far side depends on the replies alone: the exporter is always asked, the
model is asked if the exporter's reply holds samples, and each recipient is told if the model's
reply holds a recommendation with something to announce.  The requests of one check are a `Group`;
those of several checks are one group after the other, each with the replies that the groups before
it have left over and with the log that they have written (`Groups`).

Reading a configuration makes sure of URLs of the web and of nothing else.  A URL that does not fit
into the head of a request is accepted, and then a check does not even ask the exporter
(`no_request_to_braces`).
-/
import ClusterWatch.Pipeline
import ClusterWatch.Proofs.Check.FanOut
import ClusterWatch.Proofs.Check.News
import ClusterWatch.Proofs.Config
import ClusterWatch.Proofs.Http.Requests

namespace ClusterWatch

open Http

/-! ## Configurations -/

namespace Config

theorem isWebAddress_of_read {env : Environment} {config : Config} (h : read env = .ok config) :
    IsWebAddress config.collectorUrl ∧ IsWebAddress config.model.url := by
  obtain ⟨-, -, -, -, -, -, -, -, -, -, collectorWeb, -, modelWeb, -, -, -⟩ := read_eq_ok_iff.mp h
  exact ⟨collectorWeb, modelWeb⟩

/-- The address at which the chat service is told messages. -/
def chatAddress (config : Config) (token : String) : String :=
  (Telegram.new config.telegramBase config.dashboardUrl).address token

/-- The URLs of a configuration fit into the heads of requests.  That the address of the chat
service is a URL is not a matter of its base alone, as the token is a part of it. -/
structure Fits (config : Config) (token : String) : Prop where
  collector : ∀ url, Url.ofText config.collectorUrl = .ok url → url.bare.fits = true
  model : ∀ url, Url.ofText config.model.url = .ok url → url.bare.fits = true
  chat : ∃ url, Url.ofText (config.chatAddress token) = .ok url ∧ url.isWeb = true ∧
    url.bare.fits = true

structure Ready (config : Config) (token : String) : Prop where
  collector : ∃ request, Request.build .get config.collectorUrl none none = .ok request ∧
    request.Asks .get config.collectorUrl none
  model : ∀ body, ∃ request,
    Request.build .post config.model.url config.model.key body = .ok request ∧
      request.Asks .post config.model.url body
  chat : ∀ body, ∃ request,
    Request.build .post (config.chatAddress token) none body = .ok request ∧
      request.Asks .post (config.chatAddress token) body

theorem ready_of_read {env : Environment} {config : Config} {token : String}
    (accepted : read env = .ok config) (legal : config.model.key.all isHeaderText = true)
    (fits : config.Fits token) : config.Ready token := by
  obtain ⟨⟨collector, hcollector, collectorWeb⟩, ⟨model, hmodel, modelWeb⟩⟩ :=
    isWebAddress_of_read accepted
  obtain ⟨chat, hchat, chatWeb, chatFits⟩ := fits.chat
  refine ⟨?_, ?_, ?_⟩
  · exact Request.exists_build hcollector collectorWeb rfl (fits.collector _ hcollector) _ _
  · intro body
    exact Request.exists_build hmodel modelWeb legal (fits.model _ hmodel) _ _
  · intro body
    exact Request.exists_build hchat chatWeb rfl chatFits _ _

end Config

namespace Pipeline

/-! ## The requests of one check -/

/-- The samples in a reply of the exporter, if the request succeeded and the reply holds some. -/
def samples? (reply : Reply) : Option (List PodSample) :=
  if reply.isSuccess then reply.decode? PodSample.readAll else none

/-- What follows the answer of the model: one request for each recipient if there is something to
announce, and none otherwise. -/
inductive AfterAdvice (config : Config) (c : Check.Context) :
    Except Failure Recommendation → List Request → AnnouncementLog → Prop
  | failed (failure : Failure) : AfterAdvice config c (.error failure) [] c.log
  | silent {r : Recommendation} (nothing : (Check.announce c r).1.flagged = []) :
      AfterAdvice config c (.ok r) [] (Check.announce c r).2
  | told {r : Recommendation} {messages : List Request}
      (news : (Check.announce c r).1.flagged ≠ [])
      (each : List.Forall₂ (fun recipient (message : Request) =>
        message.Asks .post (config.chatAddress c.store.settings.token)
          (some ((Telegram.new config.telegramBase config.dashboardUrl).payload recipient
            (Report.text (Check.announce c r).1 c.clock)))) c.store.recipients messages) :
      AfterAdvice config c (.ok r) messages (Check.announce c r).2

/-- What follows the reply of the exporter: nothing without samples, and otherwise one request to
the model.  -/
inductive AfterUsage (config : Config) (c : Check.Context) (replies : List Reply) :
    Option (List PodSample) → List Request → AnnouncementLog → Prop
  | unread : AfterUsage config c replies none [] c.log
  | asked {samples : List PodSample} {question : Request} {messages : List Request}
      {log : AnnouncementLog}
      (asks : question.Asks .post config.model.url (some (Adviser.chat config.model.model
        (Prompt.build (PodSample.aggregate samples) c.store.settings.style))))
      (rest : AfterAdvice config c (Adviser.recommendationOf (nextReply replies)) messages log) :
      AfterUsage config c replies (some samples) (question :: messages) log

/-- The requests of one check, and the log that it leaves, given the replies from its first one on.
-/
inductive Group (config : Config) (c : Check.Context) (replies : List Reply) :
    List Request → AnnouncementLog → Prop
  | mk {question : Request} {more : List Request} {log : AnnouncementLog}
      (asks : question.Asks .get config.collectorUrl none)
      (rest : AfterUsage config c (replies.drop 1) (samples? (nextReply replies)) more log) :
      Group config c replies (question :: more) log

/-- The requests of checks at some times, one group for each of them. -/
inductive Groups (config : Config) (store : Store) :
    List Instant → AnnouncementLog → List Reply → List (List Request) → Prop
  | nil {log : AnnouncementLog} {replies : List Reply} : Groups config store [] log replies []
  | cons {clock : Instant} {clocks : List Instant} {log log' : AnnouncementLog}
      {replies : List Reply} {group : List Request} {groups : List (List Request)}
      (first : Group config ⟨store, log, config.deduplicate, clock⟩ replies group log')
      (rest : Groups config store clocks log' (replies.drop group.length) groups) :
      Groups config store (clock :: clocks) log replies (group :: groups)

variable {config : Config} {c : Check.Context} {net : Network}

/-! ## What a recommendation leads to -/

theorem announce_of_not_hasFlagged {r : Recommendation} (hnone : r.hasFlagged = false) :
    (Check.announce c r).1.flagged = [] ∧ (Check.announce c r).2 = c.log := by
  have empty : r.flagged = [] := by
    by_contra hsome
    rw [(Recommendation.hasFlagged_iff r).mpr hsome] at hnone
    cases hnone
  cases on : c.deduplicate with
  | true =>
      rw [Check.flagged_announce on, Check.log_announce on, empty]
      exact ⟨rfl, rfl⟩
  | false => simp [Check.announce, on, empty]

theorem weigh_of_silent {r : Recommendation} (nothing : (Check.announce c r).1.flagged = []) :
    ∃ result, Check.weigh c r = (.finish (.ok result), (Check.announce c r).2) := by
  have quiet : (Check.announce c r).1.hasFlagged = false := by
    rw [← Bool.not_eq_true, Recommendation.hasFlagged_iff]
    exact not_not.mpr nothing
  unfold Check.weigh
  cases hsome : r.hasFlagged with
  | false =>
      rw [(announce_of_not_hasFlagged hsome).2]
      exact ⟨_, rfl⟩
  | true => exact ⟨⟨r, some (.suppressed r.flaggedCount)⟩, by simp [quiet]⟩

theorem weigh_of_news {r : Recommendation} (news : (Check.announce c r).1.flagged ≠ []) :
    Check.weigh c r =
      (Check.dispatchTo r r.flaggedCount (Check.announce c r).1.flaggedCount
        (Report.text (Check.announce c r).1 c.clock) c.store.settings.token c.store.recipients,
        (Check.announce c r).2) := by
  have hsome : r.hasFlagged = true := by
    by_contra hnone
    exact news (announce_of_not_hasFlagged (Bool.not_eq_true _ ▸ hnone)).1
  have fresh := (Recommendation.hasFlagged_iff _).mpr news
  simp [Check.weigh, hsome, fresh]

/-! ## One check -/

theorem usageOf_of_samples {reply : Reply} {samples : List PodSample}
    (read : samples? reply = some samples) :
    Exporter.usageOf reply = .ok (PodSample.aggregate samples) := by
  unfold samples? at read
  unfold Exporter.usageOf
  split at read
  · rename_i success
    rw [if_pos success, read]
  · cases read

theorem usageOf_of_unread {reply : Reply} (unread : samples? reply = none) :
    ∃ failure, Exporter.usageOf reply = .error failure := by
  unfold samples? at unread
  unfold Exporter.usageOf
  split at unread
  · rename_i success
    rw [if_pos success, unread]
    exact ⟨_, rfl⟩
  · rename_i failed
    rw [if_neg failed]
    exact ⟨_, rfl⟩

theorem sendAll_collaborators {token : String} (ready : config.Ready token) (text : String)
    (recipients : List Int) (delivery : Delivery) (reachable : net.reachable = true) :
    ∃ messages, (Check.sendAll (collaborators config) text token recipients delivery net).2 =
        net.after messages ∧
      List.Forall₂ (fun recipient (message : Request) =>
        message.Asks .post (config.chatAddress token)
          (some ((Telegram.new config.telegramBase config.dashboardUrl).payload recipient text)))
        recipients messages := by
  induction recipients generalizing delivery net with
  | nil => exact ⟨[], (Network.after_nil net).symm, .nil⟩
  | cons recipient more ih =>
      obtain ⟨message, built, asks⟩ := ready.chat (some
        ((Telegram.new config.telegramBase config.dashboardUrl).payload recipient text))
      obtain ⟨answer, sent⟩ : ∃ answer, (collaborators config).send recipient text token net =
          (answer, net.after [message]) := by
        refine ⟨Telegram.outcomeOf (nextReply net.replies), ?_⟩
        rw [Config.chatAddress] at built
        simp only [collaborators, Telegram.send, built, Network.send_of_reachable reachable]
      obtain ⟨messages, rest, each⟩ :
          ∃ messages, (Check.sendAll (collaborators config) text token more
            (delivery.add recipient answer) (net.after [message])).2 =
              (net.after [message]).after messages ∧ _ := ih _ reachable
      refine ⟨message :: messages, ?_, .cons asks each⟩
      simp only [Check.sendAll, sent, rest, Network.after_after, List.singleton_append]

theorem carryOut_recommended (ready : config.Ready c.store.settings.token)
    (answer : Except Failure Recommendation) (reachable : net.reachable = true) :
    ∃ messages log, (Check.recommended .notification c answer).2 = log ∧
      ((Check.recommended .notification c answer).1.carryOut (collaborators config) net).2 =
        net.after messages ∧
      AfterAdvice config c answer messages log := by
  cases answer with
  | error failure => exact ⟨[], _, rfl, (Network.after_nil net).symm, .failed failure⟩
  | ok r =>
      by_cases news : (Check.announce c r).1.flagged = []
      · obtain ⟨result, silent⟩ := weigh_of_silent news
        refine ⟨[], _, rfl, ?_, ?_⟩
        · rw [Check.recommended, silent]
          exact (Network.after_nil net).symm
        · rw [Check.recommended, silent]
          exact .silent news
      · obtain ⟨messages, sent, each⟩ := sendAll_collaborators ready
          (Report.text (Check.announce c r).1 c.clock) c.store.recipients {} reachable
        refine ⟨messages, _, rfl, ?_, ?_⟩
        · rw [Check.recommended, weigh_of_news news, Check.carryOut_dispatchTo]
          exact sent
        · rw [Check.recommended, weigh_of_news news]
          exact .told news each

/-- The requests of a check form a group. -/
theorem group_of_run (ready : config.Ready c.store.settings.token)
    (reachable : net.reachable = true) :
    ∃ result log group, run config c net = (result, log, net.after group) ∧
      Group config c net.replies group log := by
  obtain ⟨get, built, asks⟩ := ready.collector
  have collected : (collaborators config).collect net =
      (Exporter.usageOf (nextReply net.replies), net.after [get]) := by
    simp only [collaborators, Exporter.collect, built, Network.send_of_reachable reachable]
  cases read : samples? (nextReply net.replies) with
  | none =>
      obtain ⟨failure, unread⟩ := usageOf_of_unread read
      refine ⟨.error failure, c.log, [get], ?_, .mk asks (read ▸ .unread)⟩
      rw [run, Check.perform, collected, unread]
  | some samples =>
      obtain ⟨post, built', asks'⟩ := ready.model (some (Adviser.chat config.model.model
        (Prompt.build (PodSample.aggregate samples) c.store.settings.style)))
      have asked : (collaborators config).recommend (PodSample.aggregate samples)
          c.store.settings.style (net.after [get]) =
            (Adviser.recommendationOf (nextReply (net.replies.drop 1)),
              (net.after [get]).after [post]) := by
        have reachable' : (net.after [get]).reachable = true := reachable
        simp only [collaborators, Adviser.recommend, built', Network.send_of_reachable reachable']
        rfl
      have reachable' : ((net.after [get]).after [post]).reachable = true := reachable
      obtain ⟨messages, log, hlog, sent, rest⟩ := carryOut_recommended ready
        (Adviser.recommendationOf (nextReply (net.replies.drop 1))) reachable'
      rw [usageOf_of_samples read] at collected
      have whole := Check.perform_eq_carryOut _ .notification collected asked
      rw [hlog, sent, Network.after_after, Network.after_after] at whole
      exact ⟨_, log, get :: post :: messages, whole, .mk asks (read ▸ .asked asks' rest)⟩

theorem run_of_unbuildable {fault : RequestFault}
    (unbuildable : Request.build .get config.collectorUrl none none = .error fault) :
    run config c net = (.error (.http fault), c.log, net) := by
  have failed : (collaborators config).collect net = (.error (.http fault), net) := by
    simp only [collaborators, Exporter.collect, unbuildable, Request.send]
  rw [run, Check.perform, failed]

theorem groups_of_runAll {store : Store} (ready : config.Ready store.settings.token)
    (clocks : List Instant) (log : AnnouncementLog) (reachable : net.reachable = true) :
    ∃ groups, (runAll config store clocks log net).2.2 = net.after groups.flatten ∧
      Groups config store clocks log net.replies groups := by
  induction clocks generalizing log net with
  | nil => exact ⟨[], (Network.after_nil net).symm, .nil⟩
  | cons clock clocks ih =>
      obtain ⟨result, log', group, hrun, first⟩ :=
        group_of_run (c := ⟨store, log, config.deduplicate, clock⟩) ready reachable
      obtain ⟨groups, more, rest⟩ :
          ∃ groups : List (List Request), (runAll config store clocks log' (net.after group)).2.2 =
              (net.after group).after groups.flatten ∧ _ := ih log' reachable
      refine ⟨group :: groups, ?_, .cons first rest⟩
      simp only [runAll, hrun, more, Network.after_after, List.flatten_cons]

/-! ## The main statement -/

theorem Groups.length_eq {store : Store} {clocks : List Instant} {log : AnnouncementLog}
    {replies : List Reply} {groups : List (List Request)}
    (h : Groups config store clocks log replies groups) : groups.length = clocks.length := by
  induction h with
  | nil => rfl
  | cons _ _ ih => rw [List.length_cons, List.length_cons, ih]

/-- Checks of an accepted configuration, whose key may be the value of a header and whose URLs fit
into the heads of requests, whatever the far side replies and whenever they are made: their requests
are one group for each check, one behind the other.  Messages go to the configured recipients, each
of them once and in order, or to the default one if none is configured. -/
theorem requests_of_checks {env : Config.Environment} {config : Config}
    (accepted : Config.read env = .ok config) (legal : config.model.key.all isHeaderText = true)
    (fits : config.Fits config.settings.token) (clocks : List Instant) (replies : List Reply) :
    let store := Store.new config.settings
    ∃ groups, (runAll config store clocks .empty ⟨replies, true, []⟩).2.2.requests =
        groups.flatten ∧
      groups.length = clocks.length ∧ Groups config store clocks .empty replies groups ∧
      store.recipients =
        Settings.effectiveRecipients (Settings.distinct config.settings.recipients) ∧
      store.recipients.Nodup := by
  intro store
  have ready : config.Ready store.settings.token := Config.ready_of_read accepted legal fits
  have reachable : (⟨replies, true, []⟩ : Network).reachable = true := rfl
  obtain ⟨groups, requests, each⟩ := groups_of_runAll ready clocks .empty reachable
  refine ⟨groups, ?_, each.length_eq, each, rfl, ?_⟩
  · rw [requests]
    exact List.nil_append _
  · exact Check.nodup_effectiveRecipients (Settings.nodup_distinct config.settings.recipients)

def environmentWith (collectorUrl : String) : Config.Environment
  | "COLLECTOR_URL" => some collectorUrl
  | "LLM_API_URL" => some "http://model/chat"
  | "LLM_MODEL" => some "m"
  | "TELEGRAM_BOT_TOKEN" => some "token"
  | _ => none

def configWith (collectorUrl : String) : Config where
  settings := { Settings.default with token := "token" }
  deduplicate := true
  telegramBase := Config.defaultTelegramBase
  dashboardUrl := Config.defaultDashboardUrl
  collectorUrl
  model := { url := "http://model/chat", key := none, model := "m", timeout := Config.modelTimeout }
  logDirectory := none

/-- An address with a brace in its host is accepted, and a check with it issues no request at all,
so not even the one that every group begins with.  -/
theorem no_request_to_braces :
    let config := configWith "http://a\x7bb/"
    let store := Store.new config.settings
    let replies := [⟨200, "[]".toList.map fun c => c.toNat.toUInt8⟩]
    Config.read (environmentWith "http://a\x7bb/") = .ok config ∧
      config.model.key.all isHeaderText = true ∧
      (runAll config store [0] .empty ⟨replies, true, []⟩).2.2.requests = [] ∧
      ¬∃ groups, (runAll config store [0] .empty ⟨replies, true, []⟩).2.2.requests =
          groups.flatten ∧ Groups config store [0] .empty replies groups := by
  intro config store replies
  have read : Url.ofText config.collectorUrl =
      .ok { scheme := "http".toList, host := some (.domain "a\x7bb".toList), path := ['/'] } := by
    decide
  have unbuildable : ∃ fault, Request.build .get config.collectorUrl none none = .error fault := by
    rw [Request.build_of_url read]
    exact ⟨_, rfl⟩
  obtain ⟨fault, unbuildable⟩ := unbuildable
  have silent : (runAll config store [0] .empty ⟨replies, true, []⟩).2.2.requests = [] := by
    simp only [runAll, run_of_unbuildable unbuildable]
  refine ⟨rfl, rfl, silent, ?_⟩
  rintro ⟨groups, same, each⟩
  rw [silent] at same
  cases each with
  | cons first rest =>
      cases first
      cases same

theorem fits_of_eq {address : String} {url : Url} (read : Url.ofText address = .ok url)
    (fits : url.bare.fits = true) : ∀ url, Url.ofText address = .ok url → url.bare.fits = true := by
  intro url' read'
  cases read.symm.trans read'
  exact fits

/-- Two checks of a service whose addresses are in order. -/
theorem requests_of_two_checks :
    ∃ groups : List (List Request), (runAll (configWith "http://exporter/pods")
        (Store.new (configWith "http://exporter/pods").settings) [0, 60000] .empty
        ⟨[⟨200, [0x5b, 0x5d]⟩], true, []⟩).2.2.requests = groups.flatten ∧ groups.length = 2 := by
  have fits : (configWith "http://exporter/pods").Fits "token" :=
    ⟨fits_of_eq rfl (by decide), fits_of_eq rfl (by decide), ⟨_, rfl, by decide, by decide⟩⟩
  have accepted : Config.read (environmentWith "http://exporter/pods") =
      .ok (configWith "http://exporter/pods") := rfl
  obtain ⟨groups, requests, two, -⟩ := requests_of_checks accepted rfl fits [0, 60000]
    [⟨200, [0x5b, 0x5d]⟩]
  exact ⟨groups, requests, two⟩

end Pipeline
end ClusterWatch

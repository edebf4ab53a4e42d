/-
One check: collect usage, ask the model, decide what is new, and tell the recipients.

A check is a machine that waits for one answer at a time: the usage from the exporter, the
recommendation from the model, and the outcome of each message.  Between two answers it acts in
one step.  The style is read when the usage arrives.  What to announce, the text, the recipients
and the token are fixed together when the recommendation arrives, so that later changes of the
settings do not touch messages on their way.
-/
import ClusterWatch.AnnouncementLog
import ClusterWatch.Delivery
import ClusterWatch.Report
import ClusterWatch.Settings.Store
import ClusterWatch.Usage

namespace ClusterWatch.Check

/-- How a completed check ended. -/
inductive Outcome where
  | nothingToReport
  | suppressed (flagged : Nat)
  | dispatched (flagged announced : Nat) (delivery : Delivery)
deriving DecidableEq, Repr

def Outcome.label : Outcome → String
  | nothingToReport => "nothing_to_report"
  | suppressed _ => "suppressed"
  | dispatched .. => "dispatched"

/-- What a check is made for: the recommendation alone, or telling the recipients too. -/
inductive Purpose where
  | analysis
  | notification
deriving DecidableEq, Repr

/-- What a completed check gives: the unfiltered recommendation, and the outcome if anyone was to be
told. -/
structure Result where
  recommendation : Recommendation
  outcome : Option Outcome
deriving DecidableEq, Repr

/-- Messages on their way: the recipient being served, those still waiting, and what became of the
others. -/
structure Dispatch where
  recommendation : Recommendation
  flagged : Nat
  announced : Nat
  text : String
  credential : String
  current : Int
  waiting : List Int
  delivery : Delivery
deriving DecidableEq, Repr

/-- Where a check stands: the answer it waits for, or its end. -/
inductive State where
  | collecting
  | recommending (usage : UsageByNamespace) (style : String)
  | sending (d : Dispatch)
  | finished (result : Except Failure Result)

/-- What a recommendation leads to: the end of the check, or messages. -/
inductive Decision where
  | finish (result : Except Failure Result)
  | dispatch (d : Dispatch)

/-- The state after a decision. -/
def Decision.state : Decision → State
  | finish result => .finished result
  | dispatch d => .sending d

/-- A question to a collaborator. -/
inductive Call where
  | collect
  | recommend (usage : UsageByNamespace) (style : String)
  | send (recipient : Int) (text credential : String)
deriving DecidableEq, Repr

/-- The question whose answer a check waits for. -/
def State.call? : State → Option Call
  | collecting => some .collect
  | recommending usage style => some (.recommend usage style)
  | sending d => some (.send d.current d.text d.credential)
  | finished _ => none

/-- An answer to a question; a collaborator may also fail in a way that takes the check with it. -/
inductive Answer where
  | usage (result : Except Failure UsageByNamespace)
  | recommendation (result : Except Failure Recommendation)
  | sent (result : Except Failure Unit)
  | collapse

/-- What a check reads and writes: the settings, the log of announcements, whether the log is
asked at all, and the time. -/
structure Context where
  store : Store
  log : AnnouncementLog
  deduplicate : Bool
  clock : Instant
deriving DecidableEq, Repr

def collected (store : Store) : Except Failure UsageByNamespace → State
  | .ok usage => .recommending usage store.settings.style
  | .error failure => .finished (.error failure)

/-- The part of a recommendation that is announced, and the log afterwards. -/
def announce (c : Context) (r : Recommendation) : Recommendation × AnnouncementLog :=
  if c.deduplicate then
    r.retain (fun log ns w => log.announce (AnnouncementLog.identity ns w.name) c.clock) c.log
  else (r, c.log)

/-- The decision to serve recipients, the first of them first. -/
def dispatchTo (r : Recommendation) (flagged announced : Nat) (text credential : String) :
    List Int → Decision
  | [] => .finish (.ok ⟨r, some (.dispatched flagged announced {})⟩)
  | current :: waiting =>
      .dispatch ⟨r, flagged, announced, text, credential, current, waiting, {}⟩

/-- Decides on a recommendation whose recipients are to be told. -/
def weigh (c : Context) (r : Recommendation) : Decision × AnnouncementLog :=
  if r.hasFlagged then
    let (news, log) := announce c r
    if news.hasFlagged then
      (dispatchTo r r.flaggedCount news.flaggedCount (Report.text news c.clock)
        c.store.settings.token c.store.recipients, log)
    else (.finish (.ok ⟨r, some (.suppressed r.flaggedCount)⟩), log)
  else (.finish (.ok ⟨r, some .nothingToReport⟩), c.log)

def recommended (purpose : Purpose) (c : Context) :
    Except Failure Recommendation → Decision × AnnouncementLog
  | .error failure => (.finish (.error failure), c.log)
  | .ok r =>
    match purpose with
    | .analysis => (.finish (.ok ⟨r, none⟩), c.log)
    | .notification => weigh c r

def sent (d : Dispatch) (answer : Except Failure Unit) : State :=
  let delivery := d.delivery.add d.current answer
  match d.waiting with
  | [] => .finished (.ok ⟨d.recommendation, some (.dispatched d.flagged d.announced delivery)⟩)
  | current :: waiting => .sending { d with current, waiting, delivery }

/-- The state after an answer, and the log; an answer to another question leads nowhere. -/
def State.advance? (purpose : Purpose) (c : Context) :
    State → Answer → Option (State × AnnouncementLog)
  | collecting, .usage result => some (collected c.store result, c.log)
  | recommending .., .recommendation result =>
      let (decision, log) := recommended purpose c result
      some (decision.state, log)
  | sending d, .sent result => some (Check.sent d result, c.log)
  | _, _ => none

/-! ## Checks from beginning to end -/

/-- The collaborators of a check, with a state that their calls change. -/
structure Collaborators (σ : Type) where
  collect : σ → Except Failure UsageByNamespace × σ
  recommend : UsageByNamespace → String → σ → Except Failure Recommendation × σ
  send : Int → String → String → σ → Except Failure Unit × σ

/-- Sends a message to recipients one after the other. -/
def sendAll {σ : Type} (c : Collaborators σ) (text credential : String) :
    List Int → Delivery → σ → Delivery × σ
  | [], delivery, s => (delivery, s)
  | recipient :: more, delivery, s =>
      let (answer, s) := c.send recipient text credential s
      sendAll c text credential more (delivery.add recipient answer) s

/-- Makes a check whose collaborators answer at once. -/
def perform {σ : Type} (c : Collaborators σ) (purpose : Purpose) (context : Context) (s : σ) :
    Except Failure Result × AnnouncementLog × σ :=
  let (usage, s) := c.collect s
  match usage with
  | .error failure => (.error failure, context.log, s)
  | .ok usage =>
    let (recommendation, s) := c.recommend usage context.store.settings.style s
    match recommended purpose context recommendation with
    | (.finish result, log) => (result, log, s)
    | (.dispatch d, log) =>
        let (delivery, s) := sendAll c d.text d.credential (d.current :: d.waiting) d.delivery s
        (.ok ⟨d.recommendation, some (.dispatched d.flagged d.announced delivery)⟩, log, s)

end ClusterWatch.Check

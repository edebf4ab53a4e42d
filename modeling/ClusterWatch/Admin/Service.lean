/-
The service behind the admin interface.

The service is the scheduler's system together with the filter of the log, if the log has one,
behind a server that limits the length of bodies and may be open to pages of other origins.  A
request is answered at once, unless it asks for a check: then the answer waits for the result of
the check.  Whatever a request changes it changes before it is answered, and a check that it asks
for changes the log of announcements when its recommendation arrives.
-/
import ClusterWatch.Admin.Body
import ClusterWatch.Admin.Resource
import ClusterWatch.Check.Format
import ClusterWatch.Config
import ClusterWatch.Http.Query
import ClusterWatch.LogFilter
import ClusterWatch.Scheduler.System
import ClusterWatch.Settings.Format

namespace ClusterWatch.Admin

/-- The service: the scheduler's system, the filter of the log, and the configuration of the server
in front. -/
structure Service where
  system : Scheduler.System
  filter : Option LogFilter
  config : ServerConfig

/-- How a request is reacted to: with a response, with a check whose result the response tells, or
not at all, when handling it breaks off. -/
inductive Reaction where
  | respond (r : Response)
  | check (purpose : Check.Purpose)
  | collapse

namespace Service

def version : String := "0.1.0"

def withStore (s : Service) (store : Store) : Service :=
  { s with system := { s.system with store } }

/-! ## Settings -/

def updateSettings (s : Service) (request : Request) : Response × Service :=
  match request.readBody s.config.bodyLimit Settings.Update.read with
  | .error fault => (.ofProblem (.badRequest fault.message), s)
  | .ok update =>
      if update.isEffective then
        let (changed, store) := s.system.store.apply update
        (.json 200 (update.response changed store.snapshot), s.withStore store)
      else
        (.ofProblem (.badRequest
          "At least one of token, checkInterval, chatIDs or responseStyle must be specified"), s)

/-! ## Checks on demand -/

/-- Whether the recipients are told about a check, as the query of a request says. -/
def analysisPurpose (request : Request) : Except Http.Query.Fault Check.Purpose :=
  (Http.Query.readSwitch "notify" request.target.query).map fun notify =>
    if notify then .notification else .analysis

def analyze (request : Request) : Reaction :=
  match analysisPurpose request with
  | .ok purpose => .check purpose
  | .error fault =>
      .respond (.text 400 ("Failed to deserialize query string: " ++ fault.message))

def responseTo : Except Failure Check.Result → Response
  | .ok result => .json 200 result.toJson
  | .error failure => .ofProblem (.ofFailure failure)

/-! ## The filter of the log -/

/-- Log targets worth tuning, and what they are about. -/
def modules : List (String × String) :=
  [("kubedeck", "Main application"),
   ("kubedeck::scheduler", "Alert scheduler"),
   ("kubedeck::alert", "Check cycle and deduplication"),
   ("kubedeck::notification", "Telegram delivery"),
   ("reqwest", "HTTP requests"),
   ("tower_http", "HTTP middleware")]

def showFilter (filter : LogFilter) : Response :=
  .json 200 (.record
    [("filter", some (.string filter.text)),
     ("available_modules", some (Json.list (fun (m : String × String) => .record
       [("name", some (.string m.1)), ("description", some (.string m.2))]) modules))])

def noFilter : Problem := .internal "Logging configuration not available"

def getFilter (s : Service) : Response :=
  match s.filter with
  | some filter => showFilter filter
  | none => .ofProblem noFilter

def readFilterText : Json.Reader String :=
  Json.readRecord [.needed "filter" Json.readText fun text _ => text] ""

/-- Sets the filter of the log.  A filter whose text is torn leaves the request without a response.
-/
def putFilter (s : Service) (request : Request) : Reaction × Service :=
  let refuse (message : String) : Reaction × Service :=
    (.respond (.ofProblem (.badRequest message)), s)
  match request.readBody s.config.bodyLimit readFilterText with
  | .error fault => (.respond (.text fault.status fault.message), s)
  | .ok text =>
      if s.filter.isNone then (.respond (.ofProblem noFilter), s)
      else if Text.isBlankText text then refuse "Filter directive must not be empty"
      else
        match LogFilter.read text with
        | .error .torn => (.collapse, s)
        | .error fault => refuse ("Invalid filter directive: " ++ fault.message)
        | .ok filter => (.respond (showFilter filter), { s with filter := some filter })

/-! ## Health -/

def uptime (s : Service) : Json := .nat (s.system.now / 1000)

/-- The word for the health of a service in a state of the scheduler. -/
def healthWord : Lifecycle → String
  | .running | .launching => "healthy"
  | .stopped => "starting"
  | .terminated => "stopped"

def getHealth (s : Service) : Response :=
  let lifecycle := s.system.status.lifecycle
  .json 200 (.record
    [("status", some (.string (healthWord lifecycle))),
     ("version", some (.string version)),
     ("uptime_secs", some s.uptime),
     ("scheduler", some (.string lifecycle.name))])

def getReadiness (s : Service) : Response :=
  match s.system.status.lifecycle with
  | .running | .launching => .text 200 "ready"
  | .stopped | .terminated => .text 503 "not ready"

def getLiveness (s : Service) : Response :=
  .json 200 (.record [("status", some (.string "alive")), ("uptime_secs", some s.uptime)])

/-! ## Requests -/

/-- Reacts to a request that does something with a resource. -/
def serve (s : Service) (resource : Resource) (verb : Verb) (request : Request) :
    Reaction × Service :=
  let respond (r : Response × Service) : Reaction × Service := (.respond r.1, r.2)
  match resource, verb with
  | .settings, .get => respond (.json 200 s.system.store.snapshot.view, s)
  | .settings, _ => respond (s.updateSettings request)
  | .analysis, _ => (analyze request, s)
  | .status, _ => respond (.json 200 (s.system.status.toJson s.system.store s.system.log), s)
  | .logging, .get => respond (s.getFilter, s)
  | .logging, _ => s.putFilter request
  | .health, _ => respond (s.getHealth, s)
  | .readiness, _ => respond (s.getReadiness, s)
  | .liveness, _ => respond (s.getLiveness, s)

/-- Reacts to a request that concerns the service itself. -/
def route (s : Service) (request : Request) : Reaction × Service :=
  match Resource.ofPath? request.target.path with
  | none => (.respond (.empty 404), s)
  | some resource =>
    match resource.verb? request.method with
    | none => (.respond { Response.empty 405 with headers := [("allow", resource.allow)] }, s)
    | some verb => s.serve resource verb request

/-- The headers of every response of a server that is open to all origins. -/
def originHeaders : List (String × String) :=
  [("access-control-allow-origin", "*"),
   ("vary", "origin, access-control-request-method, access-control-request-headers")]

/-- Whether a request asks a server what it allows to other origins. -/
def isPreflight (s : Service) (request : Request) : Bool :=
  s.config.cors && request.method == "OPTIONS"

/-- The response that tells what is allowed: everything, whatever the target. -/
def preflight (request : Request) : Response :=
  { Response.empty 200 with
    headers :=
      [("access-control-allow-methods", "*"), ("access-control-allow-headers", "*")] ++
        ((Resource.ofPath? request.target.path).map fun resource =>
          ("allow", resource.allow)).toList }

def react (s : Service) (request : Request) : Reaction × Service :=
  if s.isPreflight request then (.respond (preflight request), s) else s.route request

/-- A response as it is sent in answer to a request. -/
def sentTo (s : Service) (request : Request) (r : Response) : Response :=
  { r with
    headersOnly := request.method == "HEAD"
    headers := r.headers ++ if s.config.cors then originHeaders else [] }

/-- The context of a check that begins and ends in one step. -/
def context (s : Service) (clock : Instant) : Check.Context := s.system.context clock

def withLog (s : Service) (log : AnnouncementLog) : Service :=
  { s with system := { s.system with log } }

/-- Handles a request with collaborators that answer at once. -/
def handle {σ : Type} (c : Check.Collaborators σ) (clock : Instant) (s : Service)
    (request : Request) (far : σ) : Option Response × Service × σ :=
  match s.react request with
  | (.respond r, s) => (some (s.sentTo request r), s, far)
  | (.check purpose, s) =>
      let (result, log, far) := Check.perform c purpose (s.context clock) far
      (some (s.sentTo request (responseTo result)), s.withLog log, far)
  | (.collapse, s) => (none, s, far)

end Service
end ClusterWatch.Admin

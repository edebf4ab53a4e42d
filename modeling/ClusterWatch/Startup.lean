/-
How the service starts.

The variables of the environment come first and those of a file complete them.  The configuration
decides whether the service starts at all; then the directory of the log is made; the address to
listen at is looked at last, and a service that cannot listen there stops at once, in good order.
-/
import ClusterWatch.Dotenv
import ClusterWatch.LogRetention

namespace ClusterWatch

/-- The report of a failure that ends the program. -/
def Failure.report (f : Failure) : String :=
  "Error: " ++ f.message ++
    match f with
    | .io reason => "\n\nCaused by:\n    " ++ reason
    | _ => ""

namespace Startup

def variablesFile : String := ".env"

/-- The variables that a configuration is read from. -/
def variableNames : List String :=
  ["ALERT_CHECK_INTERVAL_SECS", "ALERT_CHAT_IDS", "ALERT_DEDUP_ENABLED", "ALERT_RESPONSE_STYLE",
   "API_BIND_ADDRESS", "API_PORT", "COLLECTOR_URL", "DASHBOARD_URL", "LLM_API_KEY", "LLM_API_URL",
   "LLM_MODEL", "LOG_DIR", "TELEGRAM_API_BASE", "TELEGRAM_BOT_TOKEN"]

/-- What a service starts with. -/
structure Plan where
  config : Config
  server : ServerConfig
deriving Repr

def plan (env : Config.Environment) : Except Failure Plan :=
  match Config.read env with
  | .ok config => .ok ⟨config, .read env⟩
  | .error fault => .error (.configuration fault.message)

/-- How far a service gets: it does not start, it starts and cannot listen, or it listens at an
address until it is interrupted. -/
inductive Course where
  | refused (failure : Failure)
  | unheard (plan : Plan) (failure : Failure)
  | listening (plan : Plan) (address : Http.SocketAddress)

/-- The course of a service with the given variables, where `makeDirectory` tells why a directory
cannot be made. -/
def course (env : Config.Environment) (makeDirectory : String → Option String) : Course :=
  match plan env with
  | .error failure => .refused failure
  | .ok plan =>
    match plan.config.logDirectory.bind makeDirectory with
    | some reason => .refused (.io reason)
    | none =>
      match plan.server.address with
      | .ok address => .listening plan address
      | .error failure => .unheard plan failure

/-- The log file that a service writes first. -/
def firstLogFile (today : Date) (c : Course) : Option (String × String) :=
  match c with
  | .refused _ => none
  | .unheard plan _ | .listening plan _ =>
      plan.config.logDirectory.map fun directory => (directory, LogRetention.fileName today)

end Startup
end ClusterWatch

/-
The configuration of the service.

It is read once from named variables.  A value counts without the blanks around it, and a blank
value counts as missing.  Variables are examined in a fixed order and the first fault is reported.
-/
import ClusterWatch.Failure
import ClusterWatch.Http.SocketAddress
import ClusterWatch.Http.Url
import ClusterWatch.Settings

namespace ClusterWatch

/-- Where and how the model is asked. -/
structure ModelEndpoint where
  url : String
  key : Option String
  model : String
  timeout : Millis
deriving DecidableEq, Repr

/-- The configuration of the service. -/
structure Config where
  settings : Settings
  deduplicate : Bool
  telegramBase : String
  dashboardUrl : String
  collectorUrl : String
  model : ModelEndpoint
  logDirectory : Option String
deriving DecidableEq, Repr

namespace Config

/-- A source of variables. -/
abbrev Environment := String → Option String

inductive Fault where
  | missing (key : String)
  | intervalNoNumber (text : String)
  | intervalZero
  | intervalTooLong
  | noChatId (text : String)
  | noSwitch (text : String)
  | noUrl (key : String) (fault : Http.UrlFault)
  | otherScheme (key scheme : String)
deriving DecidableEq, Repr

def Fault.message : Fault → String
  | missing key => key ++ " must be set"
  | intervalNoNumber text => "ALERT_CHECK_INTERVAL_SECS is not a number: " ++ text
  | intervalZero => "ALERT_CHECK_INTERVAL_SECS must be positive"
  | intervalTooLong =>
      "ALERT_CHECK_INTERVAL_SECS must be at most " ++
        Decimal.ofNat (Settings.longestInterval / 1000)
  | noChatId text => "Invalid chat id: " ++ text
  | noSwitch text => "ALERT_DEDUP_ENABLED is not a bool: " ++ text
  | noUrl key fault => key ++ " is not a valid URL: " ++ fault.message
  | otherScheme key scheme => key ++ " must use http or https, got " ++ scheme

def defaultTelegramBase : String := "https://api.telegram.org"

def defaultDashboardUrl : String := "http://localhost:3000"

def modelTimeout : Millis := seconds 45

/-- The value of a variable without the blanks around it, unless it is blank. -/
def value? (env : Environment) (key : String) : Option String :=
  ((env key).map Text.trim).filter fun value => value != ""

def require (env : Environment) (key : String) : Except Fault String :=
  match value? env key with
  | some value => .ok value
  | none => .error (.missing key)

def readInterval (text : String) : Except Fault Millis :=
  match Decimal.readNat? Decimal.maxU64 text with
  | none => .error (.intervalNoNumber text)
  | some n =>
      if n = 0 then .error .intervalZero
      else if Settings.longestInterval < seconds n then .error .intervalTooLong
      else .ok (seconds n)

/-- The parts of a list between its commas, without the blanks around them and without blank
parts. -/
def listParts (raw : String) : List String :=
  ((Text.piecesBy ',' raw.toList).map fun part => String.ofList (Text.trimList part)).filter
    fun part => part != ""

def readChatId (part : String) : Except Fault Int :=
  match Decimal.readInt? Decimal.minI64 Decimal.maxI64 part with
  | some id => .ok id
  | none => .error (.noChatId part)

def readChatIds (raw : String) : Except Fault (List Int) := (listParts raw).mapM readChatId

def readSwitch? (text : String) : Option Bool :=
  let word := Text.lowerAscii text
  if ["1", "true", "yes", "on"].contains word then some true
  else if ["0", "false", "no", "off"].contains word then some false
  else none

def readDeduplicate (text : String) : Except Fault Bool :=
  match readSwitch? text with
  | some on => .ok on
  | none => .error (.noSwitch text)

/-- Checks that a value is a URL of the web and gives it back as it is. -/
def checkUrl (key value : String) : Except Fault String :=
  match Http.Url.ofText value with
  | .error fault => .error (.noUrl key fault)
  | .ok url => if url.isWeb then .ok value else .error (.otherScheme key (String.ofList url.scheme))

def dropSlashesEnd (s : String) : String :=
  String.ofList (s.toList.reverse.dropWhile (· == '/')).reverse

def read (env : Environment) : Except Fault Config := do
  let interval ← match value? env "ALERT_CHECK_INTERVAL_SECS" with
    | some text => readInterval text
    | none => .ok Settings.default.interval
  let recipients ← match value? env "ALERT_CHAT_IDS" with
    | some raw => readChatIds raw
    | none => .ok Settings.default.recipients
  let deduplicate ← match value? env "ALERT_DEDUP_ENABLED" with
    | some text => readDeduplicate text
    | none => .ok true
  let telegramBase ← checkUrl "TELEGRAM_API_BASE"
    ((value? env "TELEGRAM_API_BASE").getD defaultTelegramBase)
  let dashboardUrl ← checkUrl "DASHBOARD_URL"
    ((value? env "DASHBOARD_URL").getD defaultDashboardUrl)
  let collectorUrl ← checkUrl "COLLECTOR_URL" (← require env "COLLECTOR_URL")
  let modelUrl ← checkUrl "LLM_API_URL" (← require env "LLM_API_URL")
  let model ← require env "LLM_MODEL"
  return {
    settings := {
      token := (value? env "TELEGRAM_BOT_TOKEN").getD Settings.default.token
      interval, recipients
      style := (value? env "ALERT_RESPONSE_STYLE").getD Settings.default.style }
    deduplicate
    telegramBase := dropSlashesEnd telegramBase
    dashboardUrl, collectorUrl
    model := { url := modelUrl, key := value? env "LLM_API_KEY", model, timeout := modelTimeout }
    logDirectory := value? env "LOG_DIR" }

end Config

/-- Where the admin interface listens, whether it is open to pages of other origins, and how many
bytes a body may have. -/
structure ServerConfig where
  bindAddress : String := "0.0.0.0"
  port : Nat := 8999
  cors : Bool := true
  bodyLimit : Nat := 1024 * 1024
deriving DecidableEq, Repr

namespace ServerConfig

/-- An interface without a server in front of it: bodies may be longer, and other origins get no
answer. -/
def bare : ServerConfig := { cors := false, bodyLimit := 2 * 1024 * 1024 }

/-- Reads where to listen; an address is taken as it is unless it is blank, and a port that is no
number is ignored. -/
def read (env : Config.Environment) : ServerConfig where
  bindAddress :=
    ((env "API_BIND_ADDRESS").filter (!Text.isBlankText ·)).getD ({} : ServerConfig).bindAddress
  port := ((env "API_PORT").bind (Decimal.readNat? Decimal.maxU16)).getD ({} : ServerConfig).port

def address (c : ServerConfig) : Except Failure Http.SocketAddress :=
  match Http.SocketAddress.ofText? (c.bindAddress ++ ":" ++ Decimal.ofNat c.port) with
  | some address => .ok address
  | none => .error (.configuration "Invalid address: invalid socket address syntax")

end ServerConfig
end ClusterWatch

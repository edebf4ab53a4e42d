/-
The program.

It reads its configuration from the environment and from a file of variables in the current
directory or one above it, and ends with a report if that does not hold up.  Otherwise it takes
requests of the admin interface from standard input, one on a line: a method, a target and perhaps
a body.  Each answer is a line with the status and the content.  The end of the input shuts the
service down.  The program has no connections of its own, so every call of a collaborator fails.
-/
import ClusterWatch.Pipeline
import ClusterWatch.Rehearsal
import ClusterWatch.Startup
import Std.Time.DateTime.Timestamp

open ClusterWatch

namespace ClusterWatch.Program

def script (config : Config) : Rehearsal.Script :=
  let far : Http.Network := ⟨[], false, []⟩
  let collaborators := Pipeline.collaborators config
  { collector := { result := (collaborators.collect far).1 }
    model := { result := (collaborators.recommend .empty "" far).1 }
    channel := { result := fun id => (collaborators.send id "" config.settings.token far).1 } }

def service (plan : Startup.Plan) (clock : Instant) : Rehearsal :=
  let store := Store.new plan.config.settings
  let rehearsal : Rehearsal :=
    { service := {
        system := .new store .empty plan.config.deduplicate
        filter := some .default
        config := plan.server }
      script := script plan.config
      clock }
  rehearsal.start.settle

def requestOf? (line : String) : Option Admin.Request :=
  let cut (cs : List Char) := (Text.cutAt? ' ' cs).getD (cs, [])
  let (method, r) := cut (Text.trimList line.toList)
  let (target, body) := cut r
  Admin.Request.ofParts? (String.ofList method) (String.ofList target)
    [("content-type", "application/json")] (body.flatMap String.utf8EncodeChar)

def answerText (r : Option Admin.Response) : String :=
  match r with
  | none => "no answer"
  | some r =>
      Decimal.ofNat r.status ++
        match r.body with
        | .empty => ""
        | .text s => " " ++ s
        | .json j => " " ++ j.toText

def readClock : IO Instant := do
  return (← Std.Time.Timestamp.now).toMillisecondsSinceUnixEpoch.val

partial def loop (input : IO.FS.Stream) (began : Millis) (r : Rehearsal) : IO Rehearsal := do
  let line ← input.getLine
  if line.isEmpty then return r
  let now ← IO.monoMsNow
  let r := { r.takeCalls.2 with clock := ← readClock }
  let r := r.pass (now - began - r.system.now)
  match requestOf? line with
  | some request =>
    let (answer, r) := r.handle request
    IO.println (answerText answer)
    loop input began r
  | none =>
    IO.println "no request"
    loop input began r

/-- The text of a file of variables in the current directory or one above it, empty if there is
none. -/
def readVariablesFile : Nat → String → IO String
  | 0, _ => return ""
  | fuel + 1, directory => do
    try IO.FS.readFile (directory ++ Startup.variablesFile)
    catch _ => readVariablesFile fuel ("../" ++ directory)

/-- The variables of the environment, completed by a file. -/
def readVariables : IO Config.Environment := do
  let entries := Dotenv.read (← readVariablesFile 64 "")
  let names := Startup.variableNames ++ Dotenv.namesIn entries
  let values ← names.mapM fun name => return (name, ← IO.getEnv name)
  return Dotenv.load (fun name => (values.lookup name).join) entries

def makeDirectory (path : String) : IO (Option String) := do
  try
    IO.FS.createDirAll path
    return none
  catch e => return some (toString e)

/-- Runs the service that a plan describes. -/
def run (plan : Startup.Plan) : IO Unit := do
  IO.println "kubedeck alerting started"
  match plan.server.address with
  | .error failure => IO.println ("API server error: " ++ failure.message)
  | .ok _ =>
    let r ← loop (← IO.getStdin) (← IO.monoMsNow) (service plan (← readClock))
    let _ := (r.after .shutdown).settle
    IO.println "Received shutdown signal"
  IO.println "Shutdown complete"

end ClusterWatch.Program

def main : IO UInt32 := do
  let env ← Program.readVariables
  let directoryFault ← match Startup.plan env with
    | .ok plan => match plan.config.logDirectory with
      | some directory => Program.makeDirectory directory
      | none => pure none
    | .error _ => pure none
  match Startup.course env (fun _ => directoryFault) with
  | .refused failure =>
    IO.eprintln failure.report
    return 1
  | .unheard plan _ | .listening plan _ =>
    Program.run plan
    return 0

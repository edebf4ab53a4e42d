/-
Settings and updates in JSON text.

Clients see the token only masked, and intervals in whole seconds.
-/
import ClusterWatch.Json.Reader
import ClusterWatch.Settings.Store

namespace ClusterWatch

open Json

namespace Settings.Update

def members : List (Member Update) :=
  [.optional "token" (readOptional readText) fun v u => { u with token := v },
   .optional "checkInterval" (readOptional (readWhole Decimal.minI64 Decimal.maxI64))
     fun v u => { u with intervalSeconds := v },
   .optional "chatIDs" (readOptional (readList (readWhole Decimal.minI64 Decimal.maxI64)))
     fun v u => { u with recipients := v },
   .optional "responseStyle" (readOptional readText) fun v u => { u with style := v }]

def read : Reader Update := readRecord members {}

/-- What a client is told about an applied update: which settings it supplied and the values that
hold now. -/
def response (u : Update) (changed : Bool) (now : Snapshot) : Json :=
  .record
    [("success", some (.bool true)),
     ("message", some (.string "Alert settings updated successfully")),
     ("changed", some (.bool changed)),
     ("settings", some (.record
       [("tokenUpdated", some (.bool u.suppliedToken.isSome)),
        ("intervalUpdated", some (.bool u.suppliedInterval.isSome)),
        ("chatIDsUpdated", some (.bool u.suppliedRecipients.isSome)),
        ("styleUpdated", some (.bool u.suppliedStyle.isSome)),
        ("currentInterval", some (.nat (now.interval / 1000))),
        ("currentChatIDs", some (Json.list .integer now.recipients))]))]

end Settings.Update

namespace Snapshot

/-- The settings as a client may see them. -/
def view (s : Snapshot) : Json :=
  .record
    [("token", some (.string (Settings.maskToken s.token))),
     ("checkInterval", some (.nat (s.interval / 1000))),
     ("chatIDs", some (Json.list .integer s.recipients)),
     ("responseStyle", some (.string s.style)),
     ("running", some (.bool s.running))]

end Snapshot
end ClusterWatch

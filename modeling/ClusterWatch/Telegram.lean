/-
The chat service: how messages reach their recipients.

Each message is one request, whose address holds the token; no failure tells the address.
-/
import ClusterWatch.Config
import ClusterWatch.Delivery
import ClusterWatch.Http.Network
import ClusterWatch.Text.Clip

namespace ClusterWatch

/-- A channel to the chat service. -/
structure Telegram where
  base : String
  dashboardUrl : String
deriving DecidableEq, Repr

namespace Telegram

def channelName : String := "telegram"

def longestText : Nat := 4096

/-- A channel with a base address, slashes at whose end do not count. -/
def new (base dashboardUrl : String) : Telegram := ⟨Config.dropSlashesEnd base, dashboardUrl⟩

def address (t : Telegram) (token : String) : String := t.base ++ "/bot" ++ token ++ "/sendMessage"

/-- The text of a message as it is sent. -/
def messageText (text : String) : String := Text.clip longestText text

/-- The body of a request: the text, and a button that leads to the dashboard. -/
def payload (t : Telegram) (recipient : Int) (text : String) : Json :=
  .record
    [("chat_id", some (.integer recipient)),
     ("text", some (.string (messageText text))),
     ("parse_mode", some (.string "Markdown")),
     ("reply_markup", some (.record
       [("inline_keyboard", some (.array [.array [.record
         [("text", some (.string "Open kubedeck")),
          ("url", some (.string t.dashboardUrl))]]]))]))]

/-- A fault without the address of its request. -/
def withoutAddress : RequestFault → RequestFault
  | .unbuildable _ => .unbuildable none
  | .unsent _ => .unsent none
  | .undecodable => .undecodable

def outcomeOf (reply : Http.Reply) : Except Failure Unit :=
  if reply.isSuccess then .ok ()
  else .error (.transport reply.status (reply.decode? Json.readValue))

def send (t : Telegram) (recipient : Int) (text token : String) (net : Http.Network) :
    Except Failure Unit × Http.Network :=
  let request := Http.Request.build .post (t.address token) none (some (t.payload recipient text))
  match Http.Request.send request net with
  | (.ok reply, net) => (outcomeOf reply, net)
  | (.error fault, net) => (.error (.http (withoutAddress fault)), net)

end Telegram
end ClusterWatch

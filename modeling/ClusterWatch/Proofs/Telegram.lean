/-
# What comes of a message does not depend on the token

The token is part of the address of a message and of nothing else.  As long as a request can be
built for the address (`Telegram.Reaches`), the far side alone decides what comes of the message
(`fateOf`): the reply tells nothing of the address, and a failure to get one is told without it.
-/
import ClusterWatch.Proofs.Http.Requests
import ClusterWatch.Telegram

namespace ClusterWatch

namespace Http.Request

variable {method : Method} {address : String} {key : Option String}

theorem exists_build_with {request : Request} (built : build method address key none = .ok request)
    (body : Option Json) : ∃ request, build method address key body = .ok request := by
  cases read : Url.ofText address with
  | error fault =>
      unfold build at built
      rw [read] at built
      cases built
  | ok url =>
      rw [build_of_url read] at built ⊢
      by_cases host : (!url.hasHost) = true
      · rw [if_pos host] at built
        cases built
      by_cases illegal : (!key.all isHeaderText) = true
      · rw [if_neg host, if_pos illegal] at built
        cases built
      by_cases unsendable : (!isSendable url.bare) = true
      · rw [if_neg host, if_neg illegal, if_pos unsendable] at built
        cases built
      rw [if_neg host, if_neg illegal, if_neg unsendable]
      exact ⟨_, rfl⟩

end Http.Request

namespace Telegram

variable {t : Telegram} {token : String}

/-- A request can be built for the address that holds a token. -/
def Reaches (t : Telegram) (token : String) : Prop :=
  ∃ request, Http.Request.build .post (t.address token) none none = .ok request

instance (t : Telegram) (token : String) : Decidable (t.Reaches token) :=
  match built : Http.Request.build .post (t.address token) none none with
  | .ok request => .isTrue ⟨request, built⟩
  | .error _ => .isFalse fun ⟨_, ok⟩ => nomatch built.symm.trans ok

/-- What the far side makes of a message. -/
def fateOf (net : Http.Network) : Except Failure Unit :=
  if net.reachable then outcomeOf (Http.nextReply net.replies) else .error (.http (.unsent none))

theorem send_of_reaches (reaches : t.Reaches token) (recipient : Int) (text : String)
    (net : Http.Network) : (t.send recipient text token net).1 = fateOf net := by
  obtain ⟨bodiless, built⟩ := reaches
  obtain ⟨request, built⟩ := Http.Request.exists_build_with built (some (t.payload recipient text))
  cases reachable : net.reachable with
  | true =>
      have sent := Http.Network.send_of_reachable reachable request
      simp only [send, built, sent, fateOf, reachable, if_true]
  | false =>
      have unsent : Http.Request.send (.ok request) net =
          (.error (.unsent (some request.url.toText)), net) := by
        simp [Http.Request.send, Http.Network.exchange, reachable]
      -- The address is in the fault, and it is taken out.
      simp only [send, built, unsent, withoutAddress, fateOf, reachable, Bool.false_eq_true,
        if_false]

end Telegram
end ClusterWatch

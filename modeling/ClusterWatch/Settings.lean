/-
Alert settings and partial updates of them.

An update may carry any of the four settings.  A value is *supplied* if it is there and usable: a
non-empty token, an interval between one second and one week, a non-empty list of recipients, a
style that is not blank.  Whatever is not supplied leaves its setting as it is.
-/
import ClusterWatch.Text.Blank

namespace ClusterWatch

/-- A span of time in milliseconds; what is shorter than one is not told apart. -/
abbrev Millis := Nat

/-- A number of seconds in milliseconds. -/
def seconds (n : Nat) : Millis := n * 1000

/-- What is sent to whom, and how often.  The interval is a whole number of milliseconds; that of a
configuration or an update is even a whole number of seconds. -/
structure Settings where
  token : String
  interval : Millis
  recipients : List Int
  style : String
deriving DecidableEq, Repr

namespace Settings

/-- The interval between checks where none is configured: forty-five minutes. -/
def defaultInterval : Millis := seconds 2700

/-- The longest interval between checks: one week. -/
def longestInterval : Millis := seconds (7 * 24 * 60 * 60)

def defaultRecipients : List Int := [-4835116305]

def defaultStyle : String :=
  "Technical report on Kubernetes resource health with actionable recommendations."

def default : Settings := ⟨"", defaultInterval, defaultRecipients, defaultStyle⟩

instance : Inhabited Settings := ⟨default⟩

/-- The first occurrences of the elements of a list, in order. -/
def distinct (ids : List Int) : List Int :=
  ids.foldl (fun out id => if out.contains id then out else out ++ [id]) []

/-- The recipients that a list stands for; an empty one stands for the default. -/
def effectiveRecipients (ids : List Int) : List Int :=
  if ids.isEmpty then defaultRecipients else ids

/-- The settings as they are kept: an interval of zero is replaced by the default, a longer one than
the longest is cut, and recipients are kept once. -/
def normalized (s : Settings) : Settings :=
  { s with
    interval := if s.interval = 0 then defaultInterval else min s.interval longestInterval
    recipients := distinct s.recipients }

/-- How many characters of a token are shown. -/
def shownOfToken : Nat := 8

/-- A token with all but its beginning hidden; a short one is hidden whole. -/
def maskToken (token : String) : String :=
  if shownOfToken < token.length then String.ofList (token.toList.take shownOfToken) ++ "..."
  else "********"

structure Update where
  token : Option String := none
  intervalSeconds : Option Int := none
  recipients : Option (List Int) := none
  style : Option String := none
deriving DecidableEq, Repr, Inhabited

namespace Update

def suppliedToken (u : Update) : Option String := u.token.filter fun token => token != ""

def suppliedInterval (u : Update) : Option Millis :=
  (u.intervalSeconds.filter fun s => decide (0 < s ∧ seconds s.toNat ≤ longestInterval)).map
    fun s => seconds s.toNat

def suppliedRecipients (u : Update) : Option (List Int) :=
  (u.recipients.filter fun ids => !ids.isEmpty).map distinct

/-- The style that an update supplies, blanks around it included. -/
def suppliedStyle (u : Update) : Option String :=
  u.style.filter fun style => !Text.isBlankText style

/-- Whether an update supplies anything. -/
def isEffective (u : Update) : Bool :=
  u.suppliedToken.isSome || u.suppliedInterval.isSome || u.suppliedRecipients.isSome ||
    u.suppliedStyle.isSome

/-- The settings after an update.  Each of them looks for itself at what the update carries for
it. -/
def applyTo (u : Update) (s : Settings) : Settings where
  token :=
    match u.token with
    | some token => if token = "" then s.token else token
    | none => s.token
  interval :=
    match u.intervalSeconds with
    | some count => if u.suppliedInterval.isSome then seconds count.natAbs else s.interval
    | none => s.interval
  recipients :=
    match u.recipients with
    | some ids => if ids.isEmpty then s.recipients else distinct ids
    | none => s.recipients
  style :=
    match u.style with
    | some style => if Text.isBlankText style then s.style else style
    | none => s.style

section Supplied

variable (u : Update) (s : Settings)

theorem token_applyTo : (u.applyTo s).token = u.suppliedToken.getD s.token := by
  obtain ⟨token, _, _, _⟩ := u
  cases token with
  | none => rfl
  | some token => by_cases h : token = "" <;> simp [applyTo, suppliedToken, Option.filter, h]

theorem interval_applyTo : (u.applyTo s).interval = u.suppliedInterval.getD s.interval := by
  obtain ⟨_, count, _, _⟩ := u
  cases count with
  | none => rfl
  | some count =>
      by_cases h : 0 < count ∧ seconds count.toNat ≤ longestInterval
      · have same : count.natAbs = count.toNat := by omega
        simp [applyTo, suppliedInterval, Option.filter, h, same]
      · simp [applyTo, suppliedInterval, Option.filter, h]

theorem recipients_applyTo :
    (u.applyTo s).recipients = u.suppliedRecipients.getD s.recipients := by
  obtain ⟨_, _, ids, _⟩ := u
  cases ids with
  | none => rfl
  | some ids => cases ids <;> rfl

theorem style_applyTo : (u.applyTo s).style = u.suppliedStyle.getD s.style := by
  obtain ⟨_, _, _, style⟩ := u
  cases style with
  | none => rfl
  | some style =>
      cases h : Text.isBlankText style <;> simp [applyTo, suppliedStyle, Option.filter, h]

end Supplied

end Update
end Settings
end ClusterWatch

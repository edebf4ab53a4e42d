/-
# What a configuration is read from

A variable has the value that stands between the blanks around its text, and no value if there are
only blanks (`Config.Holds`).  Three of the variables must have a value; for each of the others
there is something that holds in its absence (`Told`).  A configuration is put together from what
the variables tell (`Describes`), and nothing else is looked at: it is what is read if and only if
it is what the variables describe (`read_eq_ok_iff`).
-/
import ClusterWatch.Proofs.Config.ChatIds
import ClusterWatch.Proofs.Json.Scalars

namespace ClusterWatch.Config

open Json (exists_of_bind_eq_ok)

/-! ## Values of variables -/

/-- A variable has a value: what is left of its text without the blanks around it, if anything. -/
def Holds (env : Environment) (key value : String) : Prop :=
  ∃ text, env key = some text ∧ Text.Trims text.toList value.toList ∧ value ≠ ""

variable {α : Type} {env : Environment} {key value : String}

theorem value?_eq_some_iff : value? env key = some value ↔ Holds env key value := by
  have trims (text : String) :
      Text.trim text = value ↔ Text.Trims text.toList value.toList := by
    rw [← Text.trimList_eq_iff, ← String.toList_inj, Text.trim, String.toList_ofList]
  simp only [value?, Option.filter_eq_some_iff, Option.map_eq_some_iff, trims, bne_iff_ne, Holds]
  constructor
  · rintro ⟨⟨text, there, trims⟩, hsome⟩
    exact ⟨text, there, trims, hsome⟩
  · rintro ⟨text, there, trims, hsome⟩
    exact ⟨⟨text, there, trims⟩, hsome⟩

theorem Holds.unique {value' : String} (h : Holds env key value) (h' : Holds env key value') :
    value = value' := by
  have same := value?_eq_some_iff.mpr h
  rw [value?_eq_some_iff.mpr h'] at same
  exact (Option.some.inj same).symm

theorem value?_eq_none_iff : value? env key = none ↔ ∀ value, ¬Holds env key value := by
  simp only [Option.eq_none_iff_forall_ne_some, ne_eq, value?_eq_some_iff]

theorem require_eq_ok_iff : require env key = .ok value ↔ Holds env key value := by
  rw [← value?_eq_some_iff, require]
  cases value? env key <;> simp

/-- What a variable tells: what its value means, and `default` if it has none. -/
inductive Told (env : Environment) (key : String) (means : String → α → Prop) (default : α) :
    α → Prop
  | value {text : String} {x : α} (holds : Holds env key text) (meaning : means text x) :
      Told env key means default x
  | missing (hnone : ∀ text, ¬Holds env key text) : Told env key means default default

section Told

variable {means : String → α → Prop} {default x : α}

theorem exists_told_and_iff {P : α → Prop} (hdefault : P default) :
    (∃ x, Told env key means default x ∧ P x) ↔
      ∀ text, Holds env key text → ∃ x, means text x ∧ P x := by
  constructor
  · rintro ⟨x, told, good⟩ text holds
    cases told with
    | value holds' meaning =>
        rw [holds.unique holds']
        exact ⟨x, meaning, good⟩
    | missing hnone => exact absurd holds (hnone text)
  · intro hmeans
    by_cases hsome : ∃ text, Holds env key text
    · obtain ⟨text, holds⟩ := hsome
      obtain ⟨x, meaning, good⟩ := hmeans text holds
      exact ⟨x, .value holds meaning, good⟩
    · exact ⟨default, .missing (not_exists.mp hsome), hdefault⟩

theorem exists_told_iff :
    (∃ x, Told env key means default x) ↔ ∀ text, Holds env key text → ∃ x, means text x := by
  have any : (∃ x, Told env key means default x ∧ True) ↔
      ∀ text, Holds env key text → ∃ x, means text x ∧ True := exists_told_and_iff trivial
  simpa only [and_true] using any

def readOr (env : Environment) (key : String) (read : String → Except Fault α) (default : α) :
    Except Fault α :=
  match value? env key with
  | some text => read text
  | none => .ok default

theorem readOr_eq_ok_iff {read : String → Except Fault α}
    (reads : ∀ text x, read text = .ok x ↔ means text x) :
    readOr env key read default = .ok x ↔ Told env key means default x := by
  unfold readOr
  constructor
  · intro answer
    split at answer
    · next text value =>
      exact .value (value?_eq_some_iff.mp value) ((reads text x).mp answer)
    · next hnone =>
      cases answer
      exact .missing (value?_eq_none_iff.mp hnone)
  · intro told
    cases told with
    | value holds meaning =>
        rw [value?_eq_some_iff.mpr holds]
        exact (reads _ x).mpr meaning
    | missing hnone => rw [value?_eq_none_iff.mpr hnone]

theorem getD_eq_iff {default value : String} :
    (value? env key).getD default = value ↔ Told env key (· = ·) default value := by
  rw [← readOr_eq_ok_iff fun text x => (Except.ok.injEq text x).to_iff, readOr]
  cases value? env key <;> simp

theorem value?_eq_iff {value : Option String} :
    value? env key = value ↔ Told env key (fun text value => some text = value) none value := by
  rw [← readOr_eq_ok_iff fun text x => (Except.ok.injEq (some text) x).to_iff, readOr]
  cases value? env key <;> simp

end Told

/-! ## What values mean -/

/-- A text that stands for an interval of `1` to `604800` seconds. -/
def SpellsInterval (text : String) (interval : Millis) : Prop :=
  ∃ n, Decimal.SpellsNat n text.toList ∧ 1 ≤ n ∧ n ≤ 604800 ∧ seconds n = interval

theorem readInterval_eq_ok_iff {text : String} {interval : Millis} :
    readInterval text = .ok interval ↔ SpellsInterval text interval := by
  have bounds (n : Nat) : Settings.longestInterval < seconds n ↔ 604800 < n := by
    show 604800 * 1000 < n * 1000 ↔ 604800 < n
    omega
  unfold readInterval
  constructor
  · intro read
    split at read
    · cases read
    · next n number =>
      obtain ⟨spells, -⟩ := Decimal.readNat?_eq_some_iff.mp number
      simp only [bounds] at read
      split at read
      · cases read
      · next positive =>
        split at read
        · cases read
        · next short =>
          cases read
          exact ⟨n, spells, by omega, by omega, rfl⟩
  · rintro ⟨n, spells, positive, short, rfl⟩
    have fits : n ≤ Decimal.maxU64 := Nat.le_trans short (by decide)
    have zero : ¬n = 0 := by omega
    simp only [Decimal.readNat?_eq_some_iff.mpr ⟨spells, fits⟩, bounds, if_neg zero,
      if_neg (Nat.not_lt.mpr short)]

/-- The words that switch something on, and those that switch it off. -/
def switchWords : Bool → List String
  | true => ["1", "true", "yes", "on"]
  | false => ["0", "false", "no", "off"]

/-- A word that switches something on or off, in small letters or capitals. -/
def SpellsSwitch (text : String) (on : Bool) : Prop := Text.lowerAscii text ∈ switchWords on

theorem readDeduplicate_eq_ok_iff {text : String} {on : Bool} :
    readDeduplicate text = .ok on ↔ SpellsSwitch text on := by
  have apart : ∀ word ∈ switchWords true, word ∉ switchWords false := by decide
  have word : readSwitch? text = some on ↔ SpellsSwitch text on := by
    simp only [readSwitch?, List.contains_iff_mem, SpellsSwitch]
    change (if _ ∈ switchWords true then _ else if _ ∈ switchWords false then _ else _) = _ ↔ _
    by_cases isOn : Text.lowerAscii text ∈ switchWords true
    · cases on <;> simp [isOn, apart _ isOn]
    · by_cases isOff : Text.lowerAscii text ∈ switchWords false <;> cases on <;> simp [isOn, isOff]
  rw [← word, readDeduplicate]
  cases readSwitch? text <;> simp

/-- An address that stands for a URL of the web. -/
def IsWebAddress (address : String) : Prop :=
  ∃ url, Http.Url.ofText address = .ok url ∧ url.isWeb = true

theorem checkUrl_eq_ok_iff {value text : String} :
    checkUrl key value = .ok text ↔ value = text ∧ IsWebAddress text := by
  unfold checkUrl
  constructor
  · intro checked
    split at checked
    · cases checked
    · next url read =>
      split at checked
      · next web =>
        cases checked
        exact ⟨rfl, url, read, web⟩
      · cases checked
  · rintro ⟨rfl, url, read, web⟩
    simp only [read, web, if_true]

/-! ## Configurations -/

/-- The configuration that the variables describe. -/
inductive Describes (env : Environment) : Config → Prop
  | intro {token style telegramBase dashboardUrl collectorUrl modelUrl model : String}
      {interval : Millis} {recipients : List Int} {deduplicate : Bool}
      {modelKey logDirectory : Option String}
      (htoken : Told env "TELEGRAM_BOT_TOKEN" (· = ·) "" token)
      (hinterval : Told env "ALERT_CHECK_INTERVAL_SECS" SpellsInterval (seconds 2700) interval)
      (hrecipients : Told env "ALERT_CHAT_IDS" (fun raw ids => readChatIds raw = .ok ids)
        Settings.defaultRecipients recipients)
      (hstyle : Told env "ALERT_RESPONSE_STYLE" (· = ·) Settings.defaultStyle style)
      (hdeduplicate : Told env "ALERT_DEDUP_ENABLED" SpellsSwitch true deduplicate)
      (htelegramBase : Told env "TELEGRAM_API_BASE" (· = ·) defaultTelegramBase telegramBase)
      (telegramWeb : IsWebAddress telegramBase)
      (hdashboardUrl : Told env "DASHBOARD_URL" (· = ·) defaultDashboardUrl dashboardUrl)
      (dashboardWeb : IsWebAddress dashboardUrl)
      (hcollectorUrl : Holds env "COLLECTOR_URL" collectorUrl)
      (collectorWeb : IsWebAddress collectorUrl)
      (hmodelUrl : Holds env "LLM_API_URL" modelUrl) (modelWeb : IsWebAddress modelUrl)
      (hmodelKey : Told env "LLM_API_KEY" (fun text key => some text = key) none modelKey)
      (hmodel : Holds env "LLM_MODEL" model)
      (hlogDirectory : Told env "LOG_DIR" (fun text d => some text = d) none logDirectory) :
      Describes env {
        settings := { token, interval, recipients, style }
        deduplicate, dashboardUrl, collectorUrl, logDirectory
        telegramBase := dropSlashesEnd telegramBase
        model := { url := modelUrl, key := modelKey, model, timeout := modelTimeout } }

/-- Each of the variables that may be missing is read for itself, and what follows is the same
whether it is missing or not. -/
theorem read_eq (env : Environment) : read env = (do
    let interval ←
      readOr env "ALERT_CHECK_INTERVAL_SECS" readInterval Settings.default.interval
    let recipients ← readOr env "ALERT_CHAT_IDS" readChatIds Settings.default.recipients
    let deduplicate ← readOr env "ALERT_DEDUP_ENABLED" readDeduplicate true
    let telegramBase ← checkUrl "TELEGRAM_API_BASE"
      ((value? env "TELEGRAM_API_BASE").getD defaultTelegramBase)
    let dashboardUrl ← checkUrl "DASHBOARD_URL"
      ((value? env "DASHBOARD_URL").getD defaultDashboardUrl)
    let collectorUrl ← checkUrl "COLLECTOR_URL" (← require env "COLLECTOR_URL")
    let modelUrl ← checkUrl "LLM_API_URL" (← require env "LLM_API_URL")
    let model ← require env "LLM_MODEL"
    return {
      settings := {
        token := (value? env "TELEGRAM_BOT_TOKEN").getD Settings.default.token
        interval, recipients
        style := (value? env "ALERT_RESPONSE_STYLE").getD Settings.default.style }
      deduplicate
      telegramBase := dropSlashesEnd telegramBase
      dashboardUrl, collectorUrl
      model :=
        { url := modelUrl, key := value? env "LLM_API_KEY", model, timeout := modelTimeout }
      logDirectory := value? env "LOG_DIR" }) := by
  unfold read readOr
  cases value? env "ALERT_CHECK_INTERVAL_SECS" <;> cases value? env "ALERT_CHAT_IDS" <;>
    cases value? env "ALERT_DEDUP_ENABLED" <;> rfl

theorem bind_eq_ok_iff {ε α β : Type} {x : Except ε α} {f : α → Except ε β} {b : β} :
    x >>= f = .ok b ↔ ∃ a, x = .ok a ∧ f a = .ok b := by
  constructor
  · exact exists_of_bind_eq_ok
  · rintro ⟨a, rfl, later⟩
    exact later

/-- A configuration is read if and only if it is the one that the variables describe. -/
theorem read_eq_ok_iff {config : Config} : read env = .ok config ↔ Describes env config := by
  simp only [read_eq, bind_eq_ok_iff, readOr_eq_ok_iff fun _ _ => readInterval_eq_ok_iff,
    readOr_eq_ok_iff fun _ _ => readDeduplicate_eq_ok_iff, readOr_eq_ok_iff fun _ _ => Iff.rfl,
    checkUrl_eq_ok_iff, require_eq_ok_iff, getD_eq_iff]
  constructor
  · rintro ⟨interval, hinterval, recipients, hrecipients, deduplicate, hdeduplicate,
      telegramBase, ⟨htelegramBase, telegramWeb⟩, dashboardUrl, ⟨hdashboardUrl, dashboardWeb⟩,
      collectorUrl, hcollectorUrl, _, ⟨rfl, collectorWeb⟩,
      modelUrl, hmodelUrl, _, ⟨rfl, modelWeb⟩, model, hmodel, same⟩
    cases same
    exact .intro (getD_eq_iff.mp rfl) hinterval hrecipients (getD_eq_iff.mp rfl) hdeduplicate
      htelegramBase telegramWeb hdashboardUrl dashboardWeb hcollectorUrl collectorWeb hmodelUrl
      modelWeb (value?_eq_iff.mp rfl) hmodel (value?_eq_iff.mp rfl)
  · rintro ⟨htoken, hinterval, hrecipients, hstyle, hdeduplicate, htelegramBase, telegramWeb,
      hdashboardUrl, dashboardWeb, hcollectorUrl, collectorWeb, hmodelUrl, modelWeb, hmodelKey,
      hmodel, hlogDirectory⟩
    refine ⟨_, hinterval, _, hrecipients, _, hdeduplicate, _, ⟨htelegramBase, telegramWeb⟩, _,
      ⟨hdashboardUrl, dashboardWeb⟩, _, hcollectorUrl, _, ⟨rfl, collectorWeb⟩, _, hmodelUrl, _,
      ⟨rfl, modelWeb⟩, _, hmodel, ?_⟩
    have token : (value? env "TELEGRAM_BOT_TOKEN").getD Settings.default.token = _ :=
      getD_eq_iff.mpr htoken
    have style : (value? env "ALERT_RESPONSE_STYLE").getD Settings.default.style = _ :=
      getD_eq_iff.mpr hstyle
    rw [token, style, value?_eq_iff.mpr hmodelKey, value?_eq_iff.mpr hlogDirectory]
    rfl

end ClusterWatch.Config

/-
# Which configurations are accepted

A configuration is accepted if the three variables that must be there are there and the value of
each variable that has one means something (`Config.Acceptable`).  The faults of two variables do
not depend on each other, so acceptance is one condition for each of them; only which fault is
reported is a matter of their order.

The interval between checks is bounded in three places: where it is read from a variable, where a
store is made of settings, and where an update supplies one.  All three have the same bounds, so an
interval that was accepted once is never corrected or refused later on.
-/
import ClusterWatch.Proofs.Admin.Requests
import ClusterWatch.Proofs.Config
import ClusterWatch.Proofs.Json.PrintedGroups
import ClusterWatch.Proofs.Settings.Supplied

namespace ClusterWatch

/-! ## Bounds of the interval -/

namespace Settings

theorem bounded_seconds_iff {n : Nat} : Bounded (seconds n) ↔ 1 ≤ n ∧ n ≤ 604800 := by
  show 0 < n * 1000 ∧ n * 1000 ≤ 604800 * 1000 ↔ 1 ≤ n ∧ n ≤ 604800
  omega

theorem interval_normalized {s : Settings} (h : Bounded s.interval) :
    s.normalized.interval = s.interval := by
  obtain ⟨positive, short⟩ := h
  show (if s.interval = 0 then defaultInterval else min s.interval longestInterval) = s.interval
  rw [if_neg (Nat.ne_of_gt positive), Nat.min_eq_left short]

namespace Update

theorem suppliedInterval_of_bounded {n : Nat} {u : Update}
    (carries : u.intervalSeconds = some (n : Int)) (h : Bounded (seconds n)) :
    u.suppliedInterval = some (seconds n) := by
  obtain ⟨positive, -⟩ := bounded_seconds_iff.mp h
  have good : 0 < (n : Int) ∧ seconds (n : Int).toNat ≤ longestInterval :=
    ⟨by omega, by simpa using h.2⟩
  rw [suppliedInterval, carries, Option.filter_some, if_pos (decide_eq_true good)]
  rfl

/-- An update that carries an interval and nothing else, as a client writes it. -/
def intervalJson (n : Nat) : Json := .record [("checkInterval", some (.nat n))]

theorem readsBack_intervalJson {n : Nat} (short : n ≤ 604800) :
    Json.ReadsBack read (Json.render Json.Quoted.escape (intervalJson n))
      { intervalSeconds := some (n : Int) } := by
  have fits : n ≤ Decimal.maxU64 := Nat.le_trans short (by decide)
  have range : Decimal.minI64 ≤ n ∧ (n : Int) ≤ Decimal.maxI64 := by
    have least : Decimal.minI64 ≤ 0 := by decide
    have most : 604800 ≤ Decimal.maxI64 := by decide
    omega
  have own : ∀ m ∈ members, members.find? (·.answersTo m.name) = some m := by
    intro m mem
    simp only [members, List.mem_cons, List.not_mem_nil, or_false] at mem
    rcases mem with rfl | rfl | rfl | rfl <;> rfl
  have interval := (Json.readsBack_whole fits range).optional.map fun v (u : Update) =>
    { u with intervalSeconds := v }
  have fills : Json.Fills members {}
      [("token", none), ("checkInterval", some (.nat n)), ("chatIDs", none),
        ("responseStyle", none)] { intervalSeconds := some (n : Int) } :=
    .absent rfl (.present interval (.absent rfl (.absent rfl .nil)))
  -- A field without a value is not written.
  have written : intervalJson n = .record [("token", none), ("checkInterval", some (.nat n)),
      ("chatIDs", none), ("responseStyle", none)] := rfl
  rw [written]
  exact Json.readsBack_record own (by decide) fills

end Update
end Settings

namespace Admin

/-- A request to update the interval to so many seconds, in a body of at most `limit` bytes. -/
structure Request.AsksForInterval (request : Request) (limit n : Nat) : Prop where
  method : request.method = "POST"
  path : request.target.path = "/api/alerts/config".toList
  declared : request.declaresJson = true
  short : request.body.length ≤ limit
  body : request.body = (Settings.Update.intervalJson n).toText.toUTF8.data.toList

namespace Service

open Settings (Update)

theorem react_of_asksForInterval (s : Service) {request : Request} {n : Nat}
    (asks : request.AsksForInterval s.config.bodyLimit n)
    (bounded : Settings.Bounded (seconds n)) :
    ∃ r after, s.react request = (.respond r, after) ∧ r.status = 200 ∧
      after.system.store.settings.interval = seconds n := by
  have update : Json.readBytes Update.read request.body =
      .ok { intervalSeconds := some (n : Int) } := by
    rw [Json.readBytes, asks.body, Json.textOf_toUTF8]
    exact Json.ofText_toText
      (Update.readsBack_intervalJson (Settings.bounded_seconds_iff.mp bounded).2)
  have body : request.readBody s.config.bodyLimit Update.read =
      .ok { intervalSeconds := some (n : Int) } := by
    unfold Request.readBody
    simp only [asks.declared, Bool.not_true, Bool.false_eq_true, if_false,
      Nat.not_lt.mpr asks.short, update]
    rfl
  have supplied := Update.suppliedInterval_of_bounded
    (u := { intervalSeconds := some (n : Int) }) rfl bounded
  have effective : Update.isEffective { intervalSeconds := some (n : Int) } = true := by
    simp [Update.isEffective, supplied]
  rw [react_of_config asks.method asks.path, updateSettings, body]
  simp only [effective, if_true]
  refine ⟨_, _, rfl, rfl, ?_⟩
  show (s.system.store.apply _).2.settings.interval = seconds n
  rw [Store.settings_apply, Update.interval_applyTo, supplied]
  rfl

end Service
end Admin

namespace Config

/-! ## Acceptance -/

/-- What is asked of variables: three of them have a value, and a value means something. -/
structure Acceptable (env : Environment) : Prop where
  collector : ∃ address, Holds env "COLLECTOR_URL" address ∧ IsWebAddress address
  modelUrl : ∃ address, Holds env "LLM_API_URL" address ∧ IsWebAddress address
  model : ∃ name, Holds env "LLM_MODEL" name
  telegramBase : ∀ address, Holds env "TELEGRAM_API_BASE" address → IsWebAddress address
  dashboard : ∀ address, Holds env "DASHBOARD_URL" address → IsWebAddress address
  interval : ∀ text, Holds env "ALERT_CHECK_INTERVAL_SECS" text →
    ∃ n, Decimal.SpellsNat n text.toList ∧ 1 ≤ n ∧ n ≤ 604800
  recipients : ∀ raw, Holds env "ALERT_CHAT_IDS" raw →
    ∀ piece ∈ raw.toList.splitOn ',', ¬IsStray piece
  deduplicate : ∀ text, Holds env "ALERT_DEDUP_ENABLED" text → ∃ on, SpellsSwitch text on

variable {env : Environment}

theorem isWebAddress_default :
    IsWebAddress defaultTelegramBase ∧ IsWebAddress defaultDashboardUrl :=
  ⟨⟨_, rfl, rfl⟩, ⟨_, rfl, rfl⟩⟩

theorem exists_told_isWebAddress_iff {key default : String} (web : IsWebAddress default) :
    (∃ address, Told env key (· = ·) default address ∧ IsWebAddress address) ↔
      ∀ address, Holds env key address → IsWebAddress address := by
  rw [exists_told_and_iff web]
  simp only [exists_eq_left']

theorem exists_spellsInterval_iff {text : String} :
    (∃ interval, SpellsInterval text interval) ↔
      ∃ n, Decimal.SpellsNat n text.toList ∧ 1 ≤ n ∧ n ≤ 604800 := by
  constructor
  · rintro ⟨_, n, spells, positive, short, -⟩
    exact ⟨n, spells, positive, short⟩
  · rintro ⟨n, spells, positive, short⟩
    exact ⟨seconds n, n, spells, positive, short, rfl⟩

theorem exists_read_iff : (∃ config, read env = .ok config) ↔ Acceptable env := by
  simp only [read_eq_ok_iff]
  constructor
  · rintro ⟨_, token, interval, recipients, style, deduplicate, telegramBase, telegramWeb,
      dashboardUrl, dashboardWeb, collectorUrl, collectorWeb, modelUrl, modelWeb, key, model, log⟩
    refine ⟨⟨_, collectorUrl, collectorWeb⟩, ⟨_, modelUrl, modelWeb⟩, ⟨_, model⟩,
      ?_, ?_, ?_, ?_, ?_⟩
    · exact (exists_told_isWebAddress_iff isWebAddress_default.1).mp ⟨_, telegramBase, telegramWeb⟩
    · exact (exists_told_isWebAddress_iff isWebAddress_default.2).mp ⟨_, dashboardUrl, dashboardWeb⟩
    · intro text holds
      exact exists_spellsInterval_iff.mp (exists_told_iff.mp ⟨_, interval⟩ text holds)
    · intro raw holds
      exact exists_readChatIds_iff.mp (exists_told_iff.mp ⟨_, recipients⟩ raw holds)
    · exact exists_told_iff.mp ⟨_, deduplicate⟩
  · intro acceptable
    obtain ⟨_, collectorUrl, collectorWeb⟩ := acceptable.collector
    obtain ⟨_, modelUrl, modelWeb⟩ := acceptable.modelUrl
    obtain ⟨_, model⟩ := acceptable.model
    obtain ⟨_, telegramBase, telegramWeb⟩ :=
      (exists_told_isWebAddress_iff isWebAddress_default.1).mpr acceptable.telegramBase
    obtain ⟨_, dashboardUrl, dashboardWeb⟩ :=
      (exists_told_isWebAddress_iff isWebAddress_default.2).mpr acceptable.dashboard
    obtain ⟨_, interval⟩ := exists_told_iff.mpr fun text holds =>
      exists_spellsInterval_iff.mpr (acceptable.interval text holds)
    obtain ⟨_, recipients⟩ := exists_told_iff.mpr fun raw holds =>
      exists_readChatIds_iff.mpr (acceptable.recipients raw holds)
    obtain ⟨_, deduplicate⟩ := exists_told_iff.mpr acceptable.deduplicate
    exact ⟨_, .intro (getD_eq_iff.mp rfl) interval recipients (getD_eq_iff.mp rfl) deduplicate
      telegramBase telegramWeb dashboardUrl dashboardWeb collectorUrl collectorWeb modelUrl modelWeb
      (value?_eq_iff.mp rfl) model (value?_eq_iff.mp rfl)⟩

/-! ## What is looked at -/

def keys : List String :=
  ["COLLECTOR_URL", "LLM_API_URL", "LLM_MODEL", "LLM_API_KEY", "TELEGRAM_BOT_TOKEN",
   "TELEGRAM_API_BASE", "ALERT_CHECK_INTERVAL_SECS", "ALERT_CHAT_IDS", "ALERT_RESPONSE_STYLE",
   "ALERT_DEDUP_ENABLED", "DASHBOARD_URL", "LOG_DIR"]

theorem read_congr {env' : Environment}
    (same : ∀ key ∈ keys, value? env' key = value? env key) : read env' = read env := by
  simp only [keys, List.forall_mem_cons, List.not_mem_nil, false_implies, implies_true,
    and_true] at same
  obtain ⟨collector, modelUrl, model, key, token, telegram, interval, recipients, style,
    deduplicate, dashboard, log⟩ := same
  simp only [read_eq, readOr, require, collector, modelUrl, model, key, token, telegram, interval,
    recipients, style, deduplicate, dashboard, log]

/-! ## The main statement -/

/-- A configuration is read if and only if its variables are acceptable.  What is read, or which
fault is reported, depends on nothing but the values of the variables.

The interval of a configuration that is read is the number of seconds that its variable tells, and
2700 if it tells none.  A store that is made of these settings keeps it, and whoever asks for it
with an update gets it. -/
theorem acceptable_configurations_are_read (env : Environment) :
    ((∃ config, read env = .ok config) ↔ Acceptable env) ∧
      (∀ env' : Environment,
        (∀ key ∈ keys, ∀ value, Holds env' key value ↔ Holds env key value) →
          read env' = read env) ∧
      ∀ config, read env = .ok config →
        ∃ n, Told env "ALERT_CHECK_INTERVAL_SECS"
            (fun text n => Decimal.SpellsNat n text.toList) 2700 n ∧
          1 ≤ n ∧ n ≤ 604800 ∧ config.settings.interval = seconds n ∧
          (Store.new config.settings).settings.interval = seconds n ∧
          ∀ (service : Admin.Service) (request : Admin.Request),
            request.AsksForInterval service.config.bodyLimit n →
              ∃ response after, service.react request = (.respond response, after) ∧
                response.status = 200 ∧ after.system.store.settings.interval = seconds n := by
  refine ⟨exists_read_iff, ?_, ?_⟩
  · intro env' same
    refine read_congr fun key known => Option.ext fun value => ?_
    rw [value?_eq_some_iff, value?_eq_some_iff]
    exact same key known value
  · intro config accepted
    obtain ⟨-, interval, -⟩ := read_eq_ok_iff.mp accepted
    obtain ⟨n, told, bounds, rfl⟩ : ∃ n, Told env "ALERT_CHECK_INTERVAL_SECS"
        (fun text n => Decimal.SpellsNat n text.toList) 2700 n ∧ (1 ≤ n ∧ n ≤ 604800) ∧
          seconds n = _ := by
      cases interval with
      | value holds meaning =>
          obtain ⟨n, spells, positive, short, same⟩ := meaning
          exact ⟨n, .value holds spells, ⟨positive, short⟩, same⟩
      | missing hnone => exact ⟨2700, .missing hnone, by decide, rfl⟩
    have bounded := Settings.bounded_seconds_iff.mpr bounds
    refine ⟨n, told, bounds.1, bounds.2, rfl, Settings.interval_normalized bounded, ?_⟩
    exact fun service request asks => service.react_of_asksForInterval asks bounded

/-- Variables that tell the longest interval with a sign, a zero and blanks of several kinds around
it.  That of the dashboard is blank. -/
def weekly : Environment
  | "COLLECTOR_URL" => some "http://exporter/pods"
  | "LLM_API_URL" => some "\thttps://model/chat "
  | "LLM_MODEL" => some "m"
  | "ALERT_CHECK_INTERVAL_SECS" => some "\u3000+0604800\n"
  | "ALERT_CHAT_IDS" => some "7, ,-8"
  | "ALERT_DEDUP_ENABLED" => some "oFF"
  | "DASHBOARD_URL" => some "\u00a0"
  | _ => none

def weeklyConfig : Config where
  settings := ⟨"", seconds 604800, [7, -8], Settings.defaultStyle⟩
  deduplicate := false
  telegramBase := defaultTelegramBase
  dashboardUrl := defaultDashboardUrl
  collectorUrl := "http://exporter/pods"
  model := { url := "https://model/chat", key := none, model := "m", timeout := modelTimeout }
  logDirectory := none

def forAWeek : Admin.Request where
  method := "POST"
  target := { path := "/api/alerts/config".toList }
  headers := [("content-type", "application/json")]
  body := "\x7b\"checkInterval\":604800\x7d".toUTF8.data.toList

/-- The longest interval is accepted everywhere, and blanks around values make no difference. -/
theorem weekly_configuration_is_read :
    Acceptable weekly ∧ read (value? weekly) = .ok weeklyConfig ∧
      (Store.new weeklyConfig.settings).settings.interval = seconds 604800 ∧
      ∃ response after, Admin.Service.idle.react forAWeek = (.respond response, after) ∧
        response.status = 200 ∧ after.system.store.settings.interval = seconds 604800 := by
  obtain ⟨accepted_iff, same, later⟩ := acceptable_configurations_are_read weekly
  have accepted : read weekly = .ok weeklyConfig := rfl
  have values : ∀ key ∈ keys, value? (value? weekly) key = value? weekly key := by decide
  obtain ⟨n, -, -, -, interval, kept, endpoint⟩ := later weeklyConfig accepted
  obtain rfl : n = 604800 := by
    have known : 604800 * 1000 = n * 1000 := interval
    omega
  refine ⟨accepted_iff.mp ⟨_, accepted⟩, ?_, kept, endpoint _ forAWeek ?_⟩
  · rw [same (value? weekly) fun key known value => ?_, accepted]
    rw [← value?_eq_some_iff, ← value?_eq_some_iff, values key known]
  · exact ⟨rfl, rfl, by decide, by decide, by decide⟩

end Config
end ClusterWatch

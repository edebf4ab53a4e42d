/-
# Which updates count as changes

An update counts as a change if it makes a difference to what is stored.  What clients see is not
quite what is stored: no recipients are stored where none were ever named, and clients see the
default ones in their place.  So there is one change that no client can see: that of an update which
names just these recipients (`Store.SpellsOutDefault`).  It is reported as a change, and it restarts
a running scheduler.

Every other difference shows.  An update never supplies an empty list, so no list that is stored
later stands for another one (`apply_fst_iff`).  And recipients that were named once are never
forgotten, so the exception can be told from the history (`recipients_replay_eq_nil_iff`).
-/
import ClusterWatch.Proofs.Settings.Supplied

namespace ClusterWatch

open Settings (Update)

namespace Settings

theorem effectiveRecipients_of_ne_nil {ids : List Int} (h : ids ≠ []) :
    effectiveRecipients ids = ids := by
  simp [effectiveRecipients, h]

end Settings

namespace Store

/-! ## One update -/

/-- Nothing is stored for the recipients, and the update names the ones that this stands for. -/
def SpellsOutDefault (s : Store) (u : Update) : Prop :=
  s.settings.recipients = [] ∧ u.suppliedRecipients = some Settings.defaultRecipients

section Apply

variable {s : Store} {u : Update}

theorem apply_fst_eq_true_iff : (s.apply u).1 = true ↔ u.applyTo s.settings ≠ s.settings := by
  by_cases same : u.applyTo s.settings = s.settings
  · simp [apply_of_eq same, same]
  · simp [apply_of_ne same, same]

/-- What an update supplies for the recipients is seen as it is.  If clients see no difference, none
is stored, unless the update names the default where nothing is stored. -/
theorem recipients_eq_or_spellsOut
    (seen : u.suppliedRecipients.getD s.recipients = s.recipients) :
    u.suppliedRecipients.getD s.settings.recipients = s.settings.recipients ∨
      s.SpellsOutDefault u := by
  cases supplied : u.suppliedRecipients with
  | none => exact Or.inl rfl
  | some ids =>
      rw [supplied] at seen
      change ids = Settings.effectiveRecipients s.settings.recipients at seen
      by_cases stored : s.settings.recipients = []
      · rw [stored] at seen
        exact Or.inr ⟨stored, by rw [supplied, seen]; rfl⟩
      · rw [Settings.effectiveRecipients_of_ne_nil stored] at seen
        exact Or.inl seen

/-- An update that clients see no difference after leaves the settings as they are stored, unless it
names the default. -/
theorem applyTo_eq_of_snapshot_eq (seen : (s.apply u).2.snapshot = s.snapshot)
    (named : ¬s.SpellsOutDefault u) : u.applyTo s.settings = s.settings := by
  rw [snapshot_apply] at seen
  obtain ⟨token, interval, recipients, style, -⟩ := Snapshot.mk.inj seen
  have sameToken : u.suppliedToken.getD s.settings.token = s.settings.token := token
  have sameInterval : u.suppliedInterval.getD s.settings.interval = s.settings.interval := interval
  have sameRecipients := (recipients_eq_or_spellsOut recipients).resolve_right named
  have sameStyle : u.suppliedStyle.getD s.settings.style = s.settings.style := style
  rw [u.applyTo_eq, sameToken, sameInterval, sameRecipients, sameStyle]

/-- An update counts as a change if and only if clients see a difference, or it names the default
recipients where nothing is stored for them. -/
theorem apply_fst_iff :
    (s.apply u).1 = true ↔ (s.apply u).2.snapshot ≠ s.snapshot ∨ s.SpellsOutDefault u := by
  constructor
  · intro changed
    refine Decidable.or_iff_not_imp_left.mpr ?_
    intro unseen
    by_cases named : s.SpellsOutDefault u
    · exact named
    · have same := applyTo_eq_of_snapshot_eq (Decidable.not_not.mp unseen) named
      exact absurd same (apply_fst_eq_true_iff.mp changed)
  · rw [apply_fst_eq_true_iff]
    rintro (seen | ⟨stored, supplied⟩) same
    · exact seen (by rw [apply_of_eq same])
    · have named : (u.applyTo s.settings).recipients = Settings.defaultRecipients := by
        rw [u.recipients_applyTo, supplied]
        rfl
      rw [same, stored] at named
      exact absurd named (by decide)

theorem restarts_apply (s : Store) (u : Update) :
    (s.apply u).2.restarts = s.restarts + if s.running && (s.apply u).1 then 1 else 0 := by
  rcases s.apply_cases u with ⟨same, eq⟩ | ⟨changed, off, eq⟩ | ⟨changed, on, eq⟩
  · rw [same, eq, Bool.and_false]; rfl
  · rw [off, eq]; rfl
  · rw [changed, on, eq]; rfl

end Apply

/-! ## Recipients that were never named -/

/-- Nothing is stored for the recipients as long as none were named, neither in the beginning nor by
an update. -/
theorem recipients_replay_eq_nil_iff (initial : Settings) (ops : List Operation) :
    ((new initial).replay ops).settings.recipients = [] ↔
      initial.recipients = [] ∧ lastSupplied Update.suppliedRecipients ops = none := by
  have stored := get_replay (fun s => s.settings.recipients)
    (fun s u => by rw [settings_apply]; exact u.recipients_applyTo s.settings) (fun _ _ => rfl)
    (new initial) ops
  rw [stored]
  cases last : lastSupplied Update.suppliedRecipients ops with
  | none =>
      show Settings.distinct initial.recipients = [] ↔ _
      rw [Settings.distinct_eq_nil_iff, and_iff_left rfl]
  | some ids =>
      obtain ⟨op, -, supplied⟩ := List.exists_of_findSome?_eq_some last
      have hsome : ids ≠ [] := by
        cases op with
        | apply u => exact Update.ne_nil_of_suppliedRecipients supplied
        | markRunning | markStopped => cases supplied
      simp [hsome]

/-- Of a store made from any settings, after any operations, an update is reported as a change if
and only if clients see a difference after it, or no recipients were ever named and it names the
default ones.  What is running is restarted, and its generation cancelled, by the updates that are
reported as changes. -/
theorem change_is_reported_iff (initial : Settings) (ops : List Operation) (u : Update) :
    let s := (new initial).replay ops
    ((s.apply u).1 = true ↔
        (s.apply u).2.snapshot ≠ s.snapshot ∨
          (initial.recipients = [] ∧ lastSupplied Update.suppliedRecipients ops = none) ∧
            u.suppliedRecipients = some Settings.defaultRecipients) ∧
      ((s.apply u).2.restarts = s.restarts + if s.running && (s.apply u).1 then 1 else 0) ∧
      ((s.apply u).2.isCancelled s.generation = true ↔
        s.running = true ∧ (s.apply u).1 = true) := by
  intro s
  have sound : s.Sound := replay_induction (sound_new initial) (fun _ op h => h.on op) ops
  refine ⟨?_, s.restarts_apply u, ?_⟩
  · rw [apply_fst_iff, SpellsOutDefault, recipients_replay_eq_nil_iff]
  · have generation : (s.apply u).2.generation =
        s.generation + if s.running && (s.apply u).1 then 1 else 0 :=
      generation_on s (.apply u)
    rw [(sound.apply u).cancelled, generation, ← Bool.and_eq_true]
    cases s.running && (s.apply u).1 <;> simp

/-- Naming the default recipients where none were named is reported as a change and restarts what is
running, although no client sees a difference. -/
theorem default_spelled_out_is_reported :
    let s := (new { Settings.default with recipients := [] }).replay [.markRunning]
    let u : Update := { recipients := some Settings.defaultRecipients }
    (s.apply u).1 = true ∧ (s.apply u).2.snapshot = s.snapshot ∧
      (s.apply u).2.restarts = s.restarts + 1 := by
  decide

end Store
end ClusterWatch

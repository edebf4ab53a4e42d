/-
# The last update that supplies a setting decides

Each of the four settings goes its own way.  An update that supplies a value for it puts that value
in its place, and every other operation leaves it alone.  So after any operations a setting holds
what was supplied last (`lastSupplied`), and what the store was made with if nothing was.

The settings are compared as clients see them.  For the recipients this is not what is stored: no
recipients stand for the default ones.  An update never supplies an empty list, so what it supplies
is seen as it is (`snapshot_apply`).

That updates can be repeated, and that updates of different settings can change places, needs no
history: both follow from what one update does to one setting.
-/
import ClusterWatch.Proofs.Settings.Operations
import ClusterWatch.Settings.Format

namespace ClusterWatch

namespace Settings

namespace Update

theorem ne_nil_of_suppliedRecipients {u : Update} {ids : List Int}
    (h : u.suppliedRecipients = some ids) : ids ≠ [] := by
  obtain ⟨given, hgiven, rfl⟩ := Option.map_eq_some_iff.mp h
  obtain ⟨-, hsome⟩ := Option.filter_eq_some_iff.mp hgiven
  cases given with
  | nil => cases hsome
  | cons id given => exact List.ne_nil_of_mem (mem_distinct.mpr (List.mem_cons_self (a := id)))

theorem applyTo_eq (u : Update) (s : Settings) :
    u.applyTo s = ⟨u.suppliedToken.getD s.token, u.suppliedInterval.getD s.interval,
      u.suppliedRecipients.getD s.recipients, u.suppliedStyle.getD s.style⟩ := by
  rw [← u.token_applyTo, ← u.interval_applyTo, ← u.recipients_applyTo, ← u.style_applyTo]

theorem applyTo_applyTo (u : Update) (s : Settings) : u.applyTo (u.applyTo s) = u.applyTo s := by
  have again {α : Type} (a : Option α) (x : α) : a.getD (a.getD x) = a.getD x := by
    cases a <;> rfl
  simp only [applyTo_eq, again]

theorem applyTo_of_not_isEffective {u : Update} (h : u.isEffective = false) (s : Settings) :
    u.applyTo s = s := by
  obtain ⟨⟨⟨token, interval⟩, recipients⟩, style⟩ :
      ((u.suppliedToken = none ∧ u.suppliedInterval = none) ∧ u.suppliedRecipients = none) ∧
        u.suppliedStyle = none := by
    simpa [isEffective] using h
  rw [applyTo_eq, token, interval, recipients, style]
  rfl

/-- No setting is supplied by both of two updates. -/
structure Apart (u v : Update) : Prop where
  token : u.suppliedToken = none ∨ v.suppliedToken = none
  interval : u.suppliedInterval = none ∨ v.suppliedInterval = none
  recipients : u.suppliedRecipients = none ∨ v.suppliedRecipients = none
  style : u.suppliedStyle = none ∨ v.suppliedStyle = none

section Apart

variable {α : Type} {a b : Option α} (h : a = none ∨ b = none) (x : α)
include h

theorem getD_comm : a.getD (b.getD x) = b.getD (a.getD x) := by
  rcases h with rfl | rfl <;> rfl

theorem getD_getD_eq_iff : a.getD (b.getD x) = b.getD x ↔ a.getD x = x := by
  rcases h with rfl | rfl
  · exact iff_of_true rfl rfl
  · rfl

end Apart

variable {u v : Update}

theorem Apart.symm (h : u.Apart v) : v.Apart u :=
  ⟨h.token.symm, h.interval.symm, h.recipients.symm, h.style.symm⟩

theorem Apart.applyTo_comm (h : u.Apart v) (s : Settings) :
    u.applyTo (v.applyTo s) = v.applyTo (u.applyTo s) := by
  simp only [applyTo_eq, getD_comm h.token, getD_comm h.interval, getD_comm h.recipients,
    getD_comm h.style]

theorem Apart.applyTo_eq_self_iff (h : u.Apart v) (s : Settings) :
    u.applyTo (v.applyTo s) = v.applyTo s ↔ u.applyTo s = s := by
  obtain ⟨token, interval, recipients, style⟩ := s
  simp only [applyTo_eq, Settings.mk.injEq, getD_getD_eq_iff h.token, getD_getD_eq_iff h.interval,
    getD_getD_eq_iff h.recipients, getD_getD_eq_iff h.style]

end Update
end Settings

open Settings (Update)

namespace Store

/-! ## What one update does -/

section Apply

variable {s : Store} {u v : Update}

theorem apply_of_eq (h : u.applyTo s.settings = s.settings) : s.apply u = (false, s) := by
  simp [apply, h]

theorem apply_of_ne (h : u.applyTo s.settings ≠ s.settings) :
    s.apply u = (true,
      if s.running then nextGeneration { s with settings := u.applyTo s.settings }
      else { s with settings := u.applyTo s.settings }) := by
  simp [apply, h]

theorem settings_apply (s : Store) (u : Update) :
    (s.apply u).2.settings = u.applyTo s.settings := by
  by_cases same : u.applyTo s.settings = s.settings
  · rw [apply_of_eq same, same]
  · rw [apply_of_ne same]
    cases s.running <;> rfl

theorem snapshot_apply (s : Store) (u : Update) :
    (s.apply u).2.snapshot =
      { token := u.suppliedToken.getD s.snapshot.token
        interval := u.suppliedInterval.getD s.snapshot.interval
        recipients := u.suppliedRecipients.getD s.snapshot.recipients
        style := u.suppliedStyle.getD s.snapshot.style
        running := s.snapshot.running } := by
  have recipients : Settings.effectiveRecipients (u.suppliedRecipients.getD s.settings.recipients) =
      u.suppliedRecipients.getD s.recipients := by
    cases supplied : u.suppliedRecipients with
    | none => rfl
    | some ids =>
        have hsome : ids.isEmpty = false := by
          simpa using Update.ne_nil_of_suppliedRecipients supplied
        simp [Settings.effectiveRecipients, hsome]
  rw [snapshot, Store.recipients, settings_apply, u.token_applyTo, u.interval_applyTo,
    u.recipients_applyTo, u.style_applyTo, recipients, (s.apply_keeps u).1]
  rfl

theorem apply_apply (s : Store) (u : Update) :
    (s.apply u).2.apply u = (false, (s.apply u).2) := by
  apply apply_of_eq
  rw [settings_apply, u.applyTo_applyTo]

theorem apply_apply_of_eq (apart : u.Apart v) (h : u.applyTo s.settings = s.settings) :
    (s.apply v).2.apply u = (false, (s.apply v).2) := by
  apply apply_of_eq
  rw [settings_apply]
  exact (apart.applyTo_eq_self_iff s.settings).mpr h

theorem apply_comm (apart : u.Apart v) (s : Store) :
    ((s.apply u).2.apply v).2 = ((s.apply v).2.apply u).2 ∧
      ((s.apply v).2.apply u).1 = (s.apply u).1 := by
  by_cases sameU : u.applyTo s.settings = s.settings
  · rw [apply_apply_of_eq apart sameU, apply_of_eq sameU]
    exact ⟨rfl, rfl⟩
  by_cases sameV : v.applyTo s.settings = s.settings
  · rw [apply_apply_of_eq apart.symm sameV, apply_of_eq sameV]
    exact ⟨rfl, rfl⟩
  have laterU : u.applyTo (s.apply v).2.settings ≠ (s.apply v).2.settings := by
    rw [settings_apply]
    exact mt (apart.applyTo_eq_self_iff s.settings).mp sameU
  have laterV : v.applyTo (s.apply u).2.settings ≠ (s.apply u).2.settings := by
    rw [settings_apply]
    exact mt (apart.symm.applyTo_eq_self_iff s.settings).mp sameV
  -- Both change something, and each counts a generation of its own.
  rw [apply_of_ne laterU, apply_of_ne laterV, settings_apply, settings_apply, apply_of_ne sameU,
    apply_of_ne sameV, apart.applyTo_comm]
  refine ⟨?_, rfl⟩
  cases s.running <;> simp [nextGeneration]

end Apply

/-! ## The last value supplied -/

/-- What an operation supplies for a setting. -/
def Operation.supplied {α : Type} (supplied : Update → Option α) : Operation → Option α
  | .apply u => supplied u
  | _ => none

/-- What was supplied for a setting by the last operation that supplied anything for it. -/
def lastSupplied {α : Type} (supplied : Update → Option α) (ops : List Operation) : Option α :=
  ops.reverse.findSome? (Operation.supplied supplied)

section History

variable {α : Type} {supplied : Update → Option α}

theorem lastSupplied_cons (op : Operation) (ops : List Operation) :
    lastSupplied supplied (op :: ops) = (lastSupplied supplied ops).or (op.supplied supplied) := by
  simp [lastSupplied, List.findSome?_append]

/-- A setting that is replaced by what an update supplies, and not touched by a mark, holds what was
supplied last. -/
theorem get_replay (get : Store → α) (apply : ∀ s u, get (s.apply u).2 = (supplied u).getD (get s))
    (mark : ∀ (s : Store) running, get { s with running } = get s) (s : Store)
    (ops : List Operation) : get (s.replay ops) = (lastSupplied supplied ops).getD (get s) := by
  induction ops generalizing s with
  | nil => rfl
  | cons op ops ih =>
      have first : get (op.on s) = (op.supplied supplied).getD (get s) := by
        cases op with
        | apply u => exact apply s u
        | markRunning => exact mark s true
        | markStopped => exact mark s false
      calc get (s.replay (op :: ops))
          _ = (lastSupplied supplied ops).getD (get (op.on s)) := ih (op.on s)
          _ = (lastSupplied supplied (op :: ops)).getD (get s) := by
            rw [first, lastSupplied_cons]
            cases lastSupplied supplied ops <;> rfl

end History

/-! ## What clients are told -/

/-- A client is told of the setting of a name whether an update supplied it. -/
def Reports (u : Update) (name : String) (supplied : Bool) : Prop :=
  ∀ changed now, ((u.response changed now).field? "settings").bind (Json.field? name) =
    some (.bool supplied)

/-- What a client is told of a setting agrees with what happens to it: it is reported as supplied if
and only if there are settings for which the update makes a difference to it. -/
def ReportsChange {α : Type} (u : Update) (name : String) (get : Snapshot → α) : Prop :=
  ∃ supplied, Reports u name supplied ∧
    (supplied = true ↔
      ∃ initial, get ((new initial).apply u).2.snapshot ≠ get (new initial).snapshot)

theorem reportsChange {α : Type} {u : Update} {name : String} {get : Snapshot → α}
    {value : Option α} (reports : Reports u name value.isSome)
    (apply : ∀ s : Store, get (s.apply u).2.snapshot = value.getD (get s.snapshot))
    (other : ∀ v, value = some v → ∃ initial, get (new initial).snapshot ≠ v) :
    ReportsChange u name get := by
  refine ⟨value.isSome, reports, ?_⟩
  constructor
  · intro supplied
    obtain ⟨v, rfl⟩ := Option.isSome_iff_exists.mp supplied
    obtain ⟨initial, differs⟩ := other v rfl
    exact ⟨initial, by rw [apply]; exact differs.symm⟩
  · rintro ⟨initial, differs⟩
    rw [apply] at differs
    cases value with
    | none => exact absurd rfl differs
    | some v => rfl

theorem reportsChange_of_update (u : Update) :
    ReportsChange u "tokenUpdated" Snapshot.token ∧
      ReportsChange u "intervalUpdated" Snapshot.interval ∧
      ReportsChange u "chatIDsUpdated" Snapshot.recipients ∧
      ReportsChange u "styleUpdated" Snapshot.style := by
  refine ⟨?_, ?_, ?_, ?_⟩
  · refine reportsChange (fun _ _ => rfl) (fun s => by rw [snapshot_apply]) ?_
    intro token supplied
    obtain ⟨-, hsome⟩ := Option.filter_eq_some_iff.mp supplied
    exact ⟨{ Settings.default with token := "" }, (bne_iff_ne.mp hsome).symm⟩
  · refine reportsChange (fun _ _ => rfl) (fun s => by rw [snapshot_apply]) ?_
    intro interval supplied
    obtain ⟨count, -, rfl⟩ := Option.map_eq_some_iff.mp supplied
    -- A millisecond is no whole number of seconds.
    refine ⟨{ Settings.default with interval := 1 }, ?_⟩
    show 1 ≠ count.toNat * 1000
    omega
  · refine reportsChange (fun _ _ => rfl) (fun s => by rw [snapshot_apply]) ?_
    intro ids _
    by_cases same : ids = [0]
    · exact ⟨{ Settings.default with recipients := [1] }, by rw [same]; decide⟩
    · exact ⟨{ Settings.default with recipients := [0] }, Ne.symm same⟩
  · refine reportsChange (fun _ _ => rfl) (fun s => by rw [snapshot_apply]) ?_
    intro style supplied
    obtain ⟨-, hsome⟩ := Option.filter_eq_some_iff.mp supplied
    refine ⟨{ Settings.default with style := "" }, ?_⟩
    rintro rfl
    cases hsome

/-! ## The main statement -/

/-- Of a store made from any settings, after any operations, a client sees for each setting what the
last update supplied that supplied it, and what it saw in the beginning if none did.

What a client is told about an update agrees with what the update does.  On any store, an update
that supplies nothing changes nothing, one that is repeated changes nothing the second time and says
so, and two that supply different settings can change places. -/
theorem last_supplied_value_holds (initial : Settings) (ops : List Operation) :
    (let before := (new initial).snapshot
      let after := ((new initial).replay ops).snapshot
      after.token = (lastSupplied Update.suppliedToken ops).getD before.token ∧
        after.interval = (lastSupplied Update.suppliedInterval ops).getD before.interval ∧
        after.recipients = (lastSupplied Update.suppliedRecipients ops).getD before.recipients ∧
        after.style = (lastSupplied Update.suppliedStyle ops).getD before.style) ∧
      ∀ u : Update,
        (ReportsChange u "tokenUpdated" Snapshot.token ∧
          ReportsChange u "intervalUpdated" Snapshot.interval ∧
          ReportsChange u "chatIDsUpdated" Snapshot.recipients ∧
          ReportsChange u "styleUpdated" Snapshot.style) ∧
        ∀ s : Store,
          (u.isEffective = false → s.apply u = (false, s)) ∧
            (s.apply u).2.apply u = (false, (s.apply u).2) ∧
            ∀ v, u.Apart v →
              ((s.apply u).2.apply v).2 = ((s.apply v).2.apply u).2 ∧
                ((s.apply v).2.apply u).1 = (s.apply u).1 := by
  refine ⟨⟨?_, ?_, ?_, ?_⟩, ?_⟩
  · exact get_replay (fun s => s.snapshot.token) (fun s u => by rw [snapshot_apply])
      (fun _ _ => rfl) _ ops
  · exact get_replay (fun s => s.snapshot.interval) (fun s u => by rw [snapshot_apply])
      (fun _ _ => rfl) _ ops
  · exact get_replay (fun s => s.snapshot.recipients) (fun s u => by rw [snapshot_apply])
      (fun _ _ => rfl) _ ops
  · exact get_replay (fun s => s.snapshot.style) (fun s u => by rw [snapshot_apply])
      (fun _ _ => rfl) _ ops
  · intro u
    refine ⟨reportsChange_of_update u, ?_⟩
    intro s
    refine ⟨?_, s.apply_apply u, fun v apart => apply_comm apart s⟩
    intro hnone
    exact apply_of_eq (u.applyTo_of_not_isEffective hnone _)

/-- Updates of which each supplies something and carries something else that is not fit. -/
def halfFit : List Operation :=
  [.apply { token := some "old", recipients := some [2, 1, 2] }, .markRunning,
    .apply { token := some "", intervalSeconds := some 60, style := some " brief " },
    .apply { intervalSeconds := some 604801, recipients := some [], style := some "  " },
    .markStopped, .apply { token := some "new", intervalSeconds := some (-5) }]

/-- Values that are not fit leave no trace, an update of nothing else changes nothing, and one of
the interval can change places with one of the token. -/
theorem fit_values_hold :
    ((new .default).replay halfFit).snapshot.token = "new" ∧
      ((new .default).replay halfFit).snapshot.interval = seconds 60 ∧
      ((new .default).replay halfFit).snapshot.recipients = [2, 1] ∧
      ((new .default).replay halfFit).snapshot.style = " brief " ∧
      let s := (new .default).replay halfFit
      let another : Update := { token := some "newer", style := some "" }
      let faster : Update := { intervalSeconds := some 1, recipients := some [] }
      s.apply { token := some "", intervalSeconds := some 0 } = (false, s) ∧
        ((s.apply another).2.apply faster).2 = ((s.apply faster).2.apply another).2 := by
  obtain ⟨⟨token, interval, recipients, style⟩, ineffective⟩ :=
    last_supplied_value_holds .default halfFit
  obtain ⟨-, another⟩ :=
    (last_supplied_value_holds .default halfFit).2 { token := some "newer", style := some "" }
  refine ⟨token, interval, recipients, style, ?_, ?_⟩
  · exact ((ineffective { token := some "", intervalSeconds := some 0 }).2 _).1 rfl
  · exact ((another _).2.2 _ ⟨.inr rfl, .inl rfl, .inl rfl, .inl rfl⟩).1

end Store
end ClusterWatch

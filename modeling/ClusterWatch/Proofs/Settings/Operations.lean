/-
# A store under any operations

Clients of a store update it, mark it as running and mark it as stopped, in any order and as often
as they like, and now and then one takes the current generation away with it.  What such a client
may rely on is said by one number: how many of the operations since were *signals*, updates that
changed something while the store was marked as running (`signals`).  The generations that were
handed out go on with them, one by one (`generation_replay`), so a generation is cancelled as soon
as there was one signal after it was handed out, and not before.
-/
import ClusterWatch.Proofs.Settings.Distinct
import ClusterWatch.Proofs.Settings.Store

namespace ClusterWatch

/-! ## Recipients are kept once -/

namespace Settings

theorem Update.nodup_applyTo (u : Update) {s : Settings} (h : s.recipients.Nodup) :
    (u.applyTo s).recipients.Nodup := by
  rw [u.recipients_applyTo]
  cases supplied : u.suppliedRecipients with
  | none => exact h
  | some ids =>
      obtain ⟨given, -, rfl⟩ := Option.map_eq_some_iff.mp supplied
      exact nodup_distinct given

end Settings

namespace Store

inductive Operation where
  | apply (u : Settings.Update)
  | markRunning
  | markStopped

/-- The store after an operation. -/
def Operation.on (s : Store) : Operation → Store
  | .apply u => (s.apply u).2
  | .markRunning => s.markRunning.2
  | .markStopped => s.markStopped

/-- Whether an operation is an update that changes something while the store is running. -/
def Operation.isSignal (s : Store) : Operation → Bool
  | .apply u => s.running && (s.apply u).1
  | _ => false

def replay (s : Store) (ops : List Operation) : Store := ops.foldl Operation.on s

/-- How many of the operations are signals. -/
def signals (s : Store) : List Operation → Nat
  | [] => 0
  | op :: ops => (if op.isSignal s then 1 else 0) + signals (op.on s) ops

theorem replay_append (s : Store) (before after : List Operation) :
    s.replay (before ++ after) = (s.replay before).replay after :=
  List.foldl_append

/-- What holds of a store and is kept by every operation holds after any of them. -/
theorem replay_induction {P : Store → Prop} {s : Store} (start : P s)
    (step : ∀ s (op : Operation), P s → P (op.on s)) (ops : List Operation) : P (s.replay ops) := by
  induction ops generalizing s with
  | nil => exact start
  | cons op ops ih => exact ih (step s op start)

theorem Sound.on {s : Store} (h : s.Sound) (op : Operation) : (op.on s).Sound := by
  cases op with
  | apply u => exact h.apply u
  | markRunning => exact h.markRunning
  | markStopped => exact h.markStopped

theorem nodup_on {s : Store} (h : s.settings.recipients.Nodup) (op : Operation) :
    (op.on s).settings.recipients.Nodup := by
  cases op with
  | markRunning | markStopped => exact h
  | apply u =>
      show (s.apply u).2.settings.recipients.Nodup
      rcases s.apply_cases u with ⟨-, eq⟩ | ⟨-, -, eq⟩ | ⟨-, -, eq⟩ <;> rw [eq]
      · exact h
      · exact u.nodup_applyTo h
      · exact u.nodup_applyTo h

theorem generation_on (s : Store) (op : Operation) :
    (op.on s).generation = s.generation + if op.isSignal s then 1 else 0 := by
  cases op with
  | markRunning | markStopped => rfl
  | apply u =>
      show (s.apply u).2.generation = s.generation + if s.running && (s.apply u).1 then 1 else 0
      rcases s.apply_cases u with ⟨same, eq⟩ | ⟨changed, off, eq⟩ | ⟨changed, on, eq⟩
      · rw [eq, same, Bool.and_false]
        rfl
      · rw [eq, off, Bool.false_and]
        rfl
      · rw [eq, changed, on]
        rfl

theorem generation_replay (s : Store) (ops : List Operation) :
    (s.replay ops).generation = s.generation + s.signals ops := by
  induction ops generalizing s with
  | nil => rfl
  | cons op ops ih =>
      calc (s.replay (op :: ops)).generation
          _ = (op.on s).generation + (op.on s).signals ops := ih (op.on s)
          _ = s.generation + s.signals (op :: ops) := by
            rw [generation_on, signals, Nat.add_assoc]

theorem apply_of_not_signal {s : Store} {u : Settings.Update}
    (h : (s.apply u).1 = false ∨ s.running = false) :
    (s.apply u).2.generation = s.generation ∧ (s.apply u).2.restarts = s.restarts ∧
      ∀ g, (s.apply u).2.isCancelled g = s.isCancelled g := by
  rcases s.apply_cases u with ⟨-, eq⟩ | ⟨-, -, eq⟩ | ⟨changed, on, -⟩
  · rw [eq]; exact ⟨rfl, rfl, fun _ => rfl⟩
  · rw [eq]; exact ⟨rfl, rfl, fun _ => rfl⟩
  · rw [changed, on] at h
    rcases h with h | h <;> cases h

/-- Of a store made from any settings, after any operations `before` and any more of them `after`:

* The interval is positive and not longer than the longest, the recipients are stored once each, and
  messages have recipients.
* The current generation is not cancelled, and the restarts are the signals since the beginning.
* The generation that was handed out between `before` and `after`, to a client that looked at it or
  marked the store as running, is cancelled if and only if there was a signal in `after`.
* An update that changes nothing, or comes while the store is not running, cancels no generation,
  and there are no more restarts than before. -/
theorem invariant_under_operations (initial : Settings) (before after : List Operation) :
    let s := (new initial).replay before
    let t := s.replay after
    (0 < t.settings.interval ∧ t.settings.interval ≤ Settings.longestInterval) ∧
      t.settings.recipients.Nodup ∧ t.recipients ≠ [] ∧
      t.isCancelled t.generation = false ∧
      t.restarts = (new initial).signals (before ++ after) ∧
      (t.isCancelled s.generation = true ↔ 0 < s.signals after) ∧
      (t.isCancelled s.markRunning.1 = true ↔ 0 < s.signals after) ∧
      ∀ u, (t.apply u).1 = false ∨ t.running = false →
        (t.apply u).2.restarts = t.restarts ∧
          ∀ g, (t.apply u).2.isCancelled g = t.isCancelled g := by
  intro s t
  have whole : t = (new initial).replay (before ++ after) := (replay_append _ _ _).symm
  have sound : t.Sound := whole ▸ replay_induction (sound_new initial) (fun _ op h => h.on op) _
  have nodup : t.settings.recipients.Nodup :=
    whole ▸ replay_induction (P := fun s => s.settings.recipients.Nodup)
      (Settings.nodup_distinct initial.recipients) (fun _ op h => nodup_on h op) _
  have restarts : t.restarts = (new initial).signals (before ++ after) := by
    rw [sound.restarts, whole, generation_replay]
    exact Nat.zero_add _
  have cancelled : t.isCancelled s.generation = true ↔ 0 < s.signals after := by
    have later : t.generation = s.generation + s.signals after := generation_replay s after
    rw [sound.cancelled, later]
    exact Nat.lt_add_right_iff_pos
  refine ⟨sound.interval, nodup, t.recipients_ne_nil, sound.current, restarts, cancelled, cancelled,
    ?_⟩
  intro u quiet
  exact (apply_of_not_signal quiet).2

/-- A generation that is handed out twice, once before a stop and once after it, outlives a change
between the two, and not the change that follows them. -/
theorem stop_and_start_hand_out_the_same :
    let s := (new .default).replay [.markRunning, .apply { intervalSeconds := some 120 }, .markStopped]
    let t := s.replay [.apply { token := some "new" }, .markRunning]
    s.running = false ∧ (s.apply { token := some "new" }).1 = true ∧
      (s.apply { token := some "new" }).2.restarts = s.restarts ∧
      t.generation = s.generation ∧ t.isCancelled s.generation = false ∧
      (t.replay [.apply { style := some "brief" }]).isCancelled s.generation = true := by
  intro s t
  let stopped := [Operation.markRunning, .apply { intervalSeconds := some 120 }, .markStopped]
  let started := [Operation.apply { token := some "new" }, .markRunning]
  obtain ⟨-, -, -, -, -, -, -, quiet⟩ := invariant_under_operations .default stopped []
  obtain ⟨-, -, -, -, -, still, -⟩ := invariant_under_operations .default stopped started
  obtain ⟨-, -, -, -, -, gone, -⟩ := invariant_under_operations .default stopped
    (started ++ [.apply { style := some "brief" }])
  refine ⟨rfl, by decide, (quiet _ (Or.inr rfl)).1, rfl, ?_, gone.mpr (by decide)⟩
  exact Bool.eq_false_iff.mpr fun old => absurd (still.mp old) (by decide)

end Store
end ClusterWatch

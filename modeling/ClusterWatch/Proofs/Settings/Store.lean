/-
# What a store keeps

A store is made from settings, and from then on it is only updated, marked as running and marked as
stopped.  Three things hold of it through all of this (`Store.Sound`):

    cancelled   the cancelled generations are the ones before the current one
    restarts    the restarts count the generations that were cancelled
    interval    the interval between checks is positive, and not longer than the longest

So a generation that was handed out once is either the current one or cancelled, and there is no
way back from the second to the first.
-/
import ClusterWatch.Settings.Store

namespace ClusterWatch

/-- An interval between checks that needs no correction. -/
def Settings.Bounded (interval : Millis) : Prop :=
  0 < interval ∧ interval ≤ Settings.longestInterval

theorem Settings.bounded_normalized (s : Settings) : Settings.Bounded s.normalized.interval := by
  show Settings.Bounded (if s.interval = 0 then defaultInterval else min s.interval longestInterval)
  split
  · exact ⟨by decide, by decide⟩
  · next hsome =>
    refine ⟨?_, Nat.min_le_right _ _⟩
    exact Nat.lt_min.mpr ⟨Nat.pos_of_ne_zero hsome, by decide⟩

theorem Settings.Update.bounded_applyTo (u : Settings.Update) {s : Settings}
    (h : Settings.Bounded s.interval) : Settings.Bounded (u.applyTo s).interval := by
  rw [u.interval_applyTo]
  cases supplied : u.suppliedInterval with
  | none => exact h
  | some interval =>
      obtain ⟨n, hn, rfl⟩ := Option.map_eq_some_iff.mp supplied
      obtain ⟨-, bounds⟩ := Option.filter_eq_some_iff.mp hn
      obtain ⟨positive, short⟩ := of_decide_eq_true bounds
      refine ⟨?_, short⟩
      show 0 < n.toNat * 1000
      omega

namespace Store

theorem recipients_ne_nil (s : Store) : s.recipients ≠ [] := by
  unfold recipients Settings.effectiveRecipients
  split
  · decide
  · next hsome =>
    intro hnone
    rw [hnone] at hsome
    exact hsome rfl

/-- What holds of every store. -/
structure Sound (s : Store) : Prop where
  cancelled : ∀ g, s.isCancelled g = true ↔ g < s.generation
  restarts : s.restarts = s.generation
  interval : Settings.Bounded s.settings.interval

variable {s : Store}

theorem sound_new (initial : Settings) : (Store.new initial).Sound where
  cancelled := by simp [new, isCancelled]
  restarts := rfl
  interval := initial.bounded_normalized

theorem Sound.current (h : s.Sound) : s.isCancelled s.generation = false := by
  apply Bool.eq_false_iff.mpr
  intro old
  exact Nat.lt_irrefl _ ((h.cancelled _).mp old)

/-- An update changes nothing and says so, or it changes a setting, and cancels the generation if
the store is marked as running. -/
theorem apply_cases (s : Store) (u : Settings.Update) :
    ((s.apply u).1 = false ∧ (s.apply u).2 = s) ∨
      ((s.apply u).1 = true ∧ s.running = false ∧
        (s.apply u).2 = { s with settings := u.applyTo s.settings }) ∨
      ((s.apply u).1 = true ∧ s.running = true ∧
        (s.apply u).2 = nextGeneration { s with settings := u.applyTo s.settings }) := by
  unfold apply
  by_cases same : u.applyTo s.settings = s.settings
  · simp [same]
  · cases running : s.running <;> simp [same]

theorem Sound.nextGeneration (h : s.Sound) : s.nextGeneration.Sound where
  cancelled := by
    intro g
    have before := h.cancelled g
    simp only [isCancelled, List.contains_iff_mem] at before
    simp only [isCancelled, Store.nextGeneration, List.contains_iff_mem, List.mem_cons, before]
    exact Or.comm.trans Nat.lt_succ_iff_lt_or_eq.symm
  restarts := congrArg (· + 1) h.restarts
  interval := h.interval

theorem Sound.apply (h : s.Sound) (u : Settings.Update) : (s.apply u).2.Sound := by
  have updated : Sound { s with settings := u.applyTo s.settings } :=
    ⟨h.cancelled, h.restarts, u.bounded_applyTo h.interval⟩
  rcases s.apply_cases u with ⟨-, eq⟩ | ⟨-, -, eq⟩ | ⟨-, -, eq⟩
  · rw [eq]; exact h
  · rw [eq]; exact updated
  · rw [eq]; exact updated.nextGeneration

theorem Sound.markRunning (h : s.Sound) : s.markRunning.2.Sound :=
  ⟨h.cancelled, h.restarts, h.interval⟩

theorem Sound.markStopped (h : s.Sound) : s.markStopped.Sound :=
  ⟨h.cancelled, h.restarts, h.interval⟩

/-- An update of a store that is marked as running leaves everything alone, or it cancels all the
generations that were handed out. -/
theorem Sound.apply_of_running (h : s.Sound) (on : s.running = true) (u : Settings.Update) :
    ((s.apply u).1 = false ∧ (s.apply u).2 = s) ∨
      ((s.apply u).1 = true ∧ ∀ g ≤ s.generation, (s.apply u).2.isCancelled g = true) := by
  rcases s.apply_cases u with same | ⟨-, off, -⟩ | ⟨changed, -, eq⟩
  · exact Or.inl same
  · rw [on] at off; cases off
  · refine Or.inr ⟨changed, ?_⟩
    intro g handed
    refine ((h.apply u).cancelled g).mpr ?_
    rw [eq]
    exact Nat.lt_succ_of_le handed

/-- What the supervisor and the tasks may rely on in an update: marks stay, generations are only
ever replaced by later ones, and none comes back. -/
theorem apply_keeps (s : Store) (u : Settings.Update) :
    (s.apply u).2.running = s.running ∧ s.generation ≤ (s.apply u).2.generation ∧
      ∀ g, s.isCancelled g = true → (s.apply u).2.isCancelled g = true := by
  rcases s.apply_cases u with ⟨-, eq⟩ | ⟨-, -, eq⟩ | ⟨-, -, eq⟩
  · rw [eq]; exact ⟨rfl, Nat.le_refl _, fun _ old => old⟩
  · rw [eq]; exact ⟨rfl, Nat.le_refl _, fun _ old => old⟩
  · rw [eq]
    refine ⟨rfl, Nat.le_succ _, ?_⟩
    intro g old
    simp only [isCancelled, nextGeneration, List.contains_iff_mem, List.mem_cons] at old ⊢
    exact Or.inr old

end Store
end ClusterWatch

/-
# Quantities beyond the finite numbers

A literal must denote a finite number that is not below zero.  The suffix scales it after that
check, so the scaled number may still overflow, and then the quantity is read as an infinity instead
of being refused (`finite_iff_below_overflow`).  Only a suffix that stands for more than one can do
that.  The amounts that are made of an infinity are the greatest ones there are: the sample has them
as if they had been measured.
-/
import ClusterWatch.PodSample
import ClusterWatch.Proofs.Number.Overflow

namespace ClusterWatch.Quantity

/-- What the literal and the suffix of a text stand for. -/
def Denotes (raw : String) (x m : Binary64) : Prop :=
  Binary64.read? (split (Text.trim raw).toList).1 = some x ∧
    multipliers.lookup (split (Text.trim raw).toList).2 = some m

/-- The check that a literal must pass. -/
def IsAmount (x : Binary64) : Prop := x.isFinite = true ∧ x.isBelowZero = false

variable {raw : String} {v x m : Binary64} {fault : Fault}

theorem read_of_denotes (denotes : Denotes raw x m) :
    read raw =
      if x.isFinite && !x.isBelowZero then .ok (x * m) else .error (.invalid (Text.trim raw)) := by
  obtain ⟨literal, suffix⟩ := denotes
  simp only [read, suffix, literal]

/-- Whatever is read is the product of a literal that passes the check and a multiplier. -/
theorem denotes_of_read (accepted : read raw = .ok v) :
    ∃ x m, Denotes raw x m ∧ IsAmount x ∧ v = x * m := by
  unfold read at accepted
  dsimp only at accepted
  split at accepted
  · cases accepted
  · rename_i m suffix
    split at accepted
    · rename_i x literal
      split at accepted
      · rename_i good
        cases accepted
        exact ⟨x, m, ⟨literal, suffix⟩, by simpa [IsAmount] using good, rfl⟩
      · cases accepted
    · cases accepted

theorem isAmount_multipliers : ∀ entry ∈ multipliers, IsAmount entry.2 := by
  unfold IsAmount
  decide

theorem isAmount_multiplier (denotes : Denotes raw x m) : IsAmount m := by
  obtain ⟨before, after, table, -⟩ := List.lookup_eq_some_iff.mp denotes.2
  exact isAmount_multipliers _ (table ▸ List.mem_append_right before List.mem_cons_self)

theorem of_overflow (denotes : Denotes raw x m) (amount : IsAmount x)
    (beyond : (x * m).isFinite = false) : x * m = .infinite false ∧ 1 < m.value := by
  obtain ⟨finite, least⟩ := isAmount_multiplier denotes
  constructor
  · have above := Binary64.not_isBelowZero_mul amount.1 finite amount.2 least
    have infinite := Binary64.mul_eq_infinite amount.1 finite beyond
    rw [infinite, Binary64.isBelowZero] at above
    rw [infinite, above]
  · by_contra small
    have within : |x.value * m.value| < Binary64.overflow := by
      rw [abs_mul, abs_of_nonneg (Binary64.value_nonneg least)]
      exact (mul_le_of_le_one_right (abs_nonneg _) (not_lt.mp small)).trans_lt
        (Binary64.abs_value_read?_lt denotes.1)
    rw [(Binary64.isFinite_mul amount.1 finite).mpr within] at beyond
    cases beyond

theorem amounts_of_infinite (accepted : read raw = .ok (.infinite false)) :
    PodSample.amount readMillicores (some raw) = some Decimal.maxU64 ∧
      PodSample.amount readMebibytes (some raw) = some Decimal.maxU64 := by
  have thousandth : Binary64.infinite false * Binary64.ofNat 1000 = .infinite false := by decide
  have mebi : Binary64.infinite false / mebibyte = .infinite false := by decide
  simp [PodSample.amount, readMillicores, readMebibytes, accepted, Except.map, Except.toOption,
    thousandth, mebi, Binary64.roundNat]

theorem amounts_of_fault (refused : read raw = .error fault) :
    PodSample.amount readMillicores (some raw) = none ∧
      PodSample.amount readMebibytes (some raw) = none := by
  simp [PodSample.amount, readMillicores, readMebibytes, refused, Except.map, Except.toOption]

/-- Every text that is read as a quantity is read as a number that is not below zero, finite if and
only if the literal times the suffix lies below the overflow.  Otherwise it is an infinity, which
takes a suffix that stands for more than one, and the sample gets the greatest amounts instead of
none.  A text is refused as invalid where its suffix is known and its literal does not denote a
finite number from zero on, and of a text that is refused the sample gets none. -/
theorem finite_iff_below_overflow (raw : String) :
    match read raw with
    | .ok v => ∃ x m, Denotes raw x m ∧ IsAmount x ∧ v = x * m ∧
        v.isBelowZero = false ∧ v ≠ .nan ∧
        (v.isFinite = true ↔ x.value * m.value < Binary64.overflow) ∧
        (v.isFinite = false → v = .infinite false ∧ 1 < m.value ∧
          PodSample.amount readMillicores (some raw) = some Decimal.maxU64 ∧
          PodSample.amount readMebibytes (some raw) = some Decimal.maxU64)
    | .error fault =>
        (∀ x m, Denotes raw x m → ¬IsAmount x ∧ fault = .invalid (Text.trim raw)) ∧
        PodSample.amount readMillicores (some raw) = none ∧
        PodSample.amount readMebibytes (some raw) = none := by
  cases answer : read raw with
  | error fault =>
      refine ⟨?_, amounts_of_fault answer⟩
      intro x m denotes
      rw [read_of_denotes denotes] at answer
      split at answer
      · cases answer
      · rename_i bad
        exact ⟨fun amount => bad (by simp [amount.1, amount.2]), (Except.error.inj answer).symm⟩
  | ok v =>
      obtain ⟨x, m, denotes, amount, rfl⟩ := denotes_of_read answer
      obtain ⟨finite, least⟩ := isAmount_multiplier denotes
      have positive := mul_nonneg (Binary64.value_nonneg amount.2) (Binary64.value_nonneg least)
      have range := Binary64.isFinite_mul amount.1 finite
      rw [abs_of_nonneg positive] at range
      refine ⟨x, m, denotes, amount, rfl, ?_, ?_, range, ?_⟩
      · exact Binary64.not_isBelowZero_mul amount.1 finite amount.2 least
      · intro nan
        have infinite := (of_overflow denotes amount (by rw [nan]; rfl)).1
        rw [nan] at infinite
        cases infinite
      · intro beyond
        obtain ⟨infinite, large⟩ := of_overflow denotes amount beyond
        exact ⟨infinite, large, amounts_of_infinite (by rw [answer, infinite])⟩

/-- The literal is within the range and passes the check; its suffix takes it out of the range. -/
theorem scaled_literal_is_infinite :
    read "1e308k" = .ok (.infinite false) ∧ (Binary64.infinite false).isFinite = false ∧
      PodSample.amount readMillicores (some "1e308k") = some Decimal.maxU64 ∧
      PodSample.amount readMebibytes (some "1e308k") = some Decimal.maxU64 := by
  have denotes : Denotes "1e308k" (.finite false 5010420900022432 971) (.ofNat 1000) := by
    unfold Denotes
    decide +kernel
  have product : Binary64.finite false 5010420900022432 971 * .ofNat 1000 = .infinite false := by
    decide +kernel
  have accepted : read "1e308k" = .ok (.infinite false) := by
    rw [read_of_denotes denotes, product]
    rfl
  exact ⟨accepted, rfl, amounts_of_infinite accepted⟩

end ClusterWatch.Quantity

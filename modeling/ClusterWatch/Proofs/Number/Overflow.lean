/-
# Where rounding overflows

An operation on numbers of the format forms the exact rational result and rounds it once.  The
result overflows, and so becomes an infinity, from half a unit beyond the greatest finite number on
(`isFinite_ofRatio`): a tie there goes to the even significand, which would need one more bit.

Both steps of rounding are taken exactly: the exponent is the binary logarithm of the fraction
(`le_floorLog2_iff`), and the significand is the nearest whole number (`le_roundEven_iff`).
-/
import Mathlib.Algebra.Order.Field.Power
import Mathlib.Data.Rat.Cast.Order
import Mathlib.Tactic.FieldSimp
import Mathlib.Tactic.Linarith
import Mathlib.Tactic.Positivity
import Mathlib.Tactic.Ring
import ClusterWatch.Number.Binary64.Literal

namespace ClusterWatch.Binary64

def value : Binary64 → ℚ
  | .finite negative m e => (if negative then -1 else 1) * (m * 2 ^ e)
  | _ => 0

/-- The greatest finite number and half a unit of its last place. -/
def overflow : ℚ := (2 ^ 53 - 1 / 2) * 2 ^ greatestExponent

theorem overflow_pos : 0 < overflow := by
  unfold overflow
  have unit : (0 : ℚ) < 2 ^ greatestExponent := by positivity
  exact mul_pos (by norm_num) unit

variable {num den : Nat}

theorem unscale_eq (num : Nat) {den : Nat} (positive : den ≠ 0) (e : Int) :
    (unscale num den e).2 ≠ 0 ∧
      ((unscale num den e).1 : ℚ) / (unscale num den e).2 = num / den / 2 ^ e := by
  unfold unscale
  split
  · next up =>
    have power : (2 : ℚ) ^ e = 2 ^ e.toNat := by
      rw [← zpow_natCast, Int.toNat_of_nonneg up]
    refine ⟨Nat.mul_ne_zero positive (Nat.pow_pos (by decide)).ne', ?_⟩
    rw [power, div_div]
    push_cast
    rfl
  · next down =>
    have power : (2 : ℚ) ^ e = (2 ^ (-e).toNat)⁻¹ := by
      rw [← zpow_natCast, Int.toNat_of_nonneg (by omega), zpow_neg, inv_inv]
    refine ⟨positive, ?_⟩
    rw [power, div_inv_eq_mul]
    push_cast
    ring

theorem log2_bounds (positive : num ≠ 0) :
    (2 : ℚ) ^ (num.log2 : Int) ≤ num ∧ (num : ℚ) < 2 ^ ((num.log2 : Int) + 1) := by
  have least : 2 ^ num.log2 ≤ num := Nat.log2_self_le positive
  have most : num < 2 ^ (num.log2 + 1) := Nat.lt_log2_self
  rw [← Nat.cast_succ, zpow_natCast, zpow_natCast]
  exact ⟨by exact_mod_cast least, by exact_mod_cast most⟩

theorem one_le_div_iff_unscale (num : Nat) (positive : den ≠ 0) (e : Int) :
    (unscale num den e).2 ≤ (unscale num den e).1 ↔ (2 : ℚ) ^ e ≤ num / den := by
  obtain ⟨positive', same⟩ := unscale_eq num positive e
  have below : (0 : ℚ) < (unscale num den e).2 := by exact_mod_cast Nat.pos_of_ne_zero positive'
  have power : (0 : ℚ) < 2 ^ e := by positivity
  rw [← one_le_div₀ power, ← same, one_le_div₀ below]
  exact Nat.cast_le.symm

theorem le_floorLog2_iff (numerator : num ≠ 0) (denominator : den ≠ 0) (k : Int) :
    k ≤ floorLog2 num den ↔ (2 : ℚ) ^ k ≤ num / den := by
  obtain ⟨leastNum, mostNum⟩ := log2_bounds numerator
  obtain ⟨leastDen, mostDen⟩ := log2_bounds denominator
  have positive : (0 : ℚ) < den := by exact_mod_cast Nat.pos_of_ne_zero denominator
  have least : (2 : ℚ) ^ ((num.log2 : Int) - den.log2 - 1) ≤ num / den := by
    rw [le_div_iff₀ positive]
    calc (2 : ℚ) ^ ((num.log2 : Int) - den.log2 - 1) * den
        ≤ 2 ^ ((num.log2 : Int) - den.log2 - 1) * 2 ^ ((den.log2 : Int) + 1) := by gcongr
      _ = 2 ^ (num.log2 : Int) := by
          rw [← zpow_add₀ two_ne_zero]
          congr 1
          ring
      _ ≤ num := leastNum
  have most : (num / den : ℚ) < 2 ^ ((num.log2 : Int) - den.log2 + 1) := by
    rw [div_lt_iff₀ positive]
    calc (num : ℚ)
        < 2 ^ ((num.log2 : Int) + 1) := mostNum
      _ = 2 ^ ((num.log2 : Int) - den.log2 + 1) * 2 ^ (den.log2 : Int) := by
          rw [← zpow_add₀ two_ne_zero]
          congr 1
          ring
      _ ≤ 2 ^ ((num.log2 : Int) - den.log2 + 1) * den := by gcongr
  have iff := one_le_div_iff_unscale num denominator ((num.log2 : Int) - den.log2)
  have raise {i j : Int} (h : i ≤ j) : (2 : ℚ) ^ i ≤ 2 ^ j := zpow_le_zpow_right₀ one_le_two h
  unfold floorLog2
  dsimp only
  split
  · next up =>
    constructor
    · intro below
      exact (raise below).trans (iff.mp up)
    · intro below
      by_contra above
      exact absurd (below.trans_lt most) (not_lt.mpr (raise (by omega)))
  · next down =>
    constructor
    · intro below
      exact (raise below).trans least
    · intro below
      by_contra above
      exact down (iff.mpr ((raise (by omega)).trans below))

/-- An even number is reached from half a unit below it on, since a tie goes to it. -/
theorem le_roundEven_iff {k : Nat} (even : k % 2 = 0) (positive : den ≠ 0) :
    k ≤ roundEven num den ↔ 2 * k * den ≤ 2 * num + den := by
  have cut : den * (num / den) + num % den = num := Nat.div_add_mod num den
  have rest : num % den < den := Nat.mod_lt _ (Nat.pos_of_ne_zero positive)
  rcases Nat.lt_trichotomy k (num / den + 1) with below | same | above
  · have scaled : k * den ≤ num / den * den := Nat.mul_le_mul_right _ (by omega)
    have reached : k ≤ roundEven num den := by
      unfold roundEven
      dsimp only
      split <;> omega
    rw [Nat.mul_comm] at cut
    exact iff_of_true reached (by rw [Nat.mul_assoc]; omega)
  · unfold roundEven
    subst same
    dsimp only
    have hsplit : 2 * (num / den + 1) * den = 2 * (den * (num / den)) + 2 * den := by ring
    rw [hsplit]
    split <;> omega
  · have scaled : (num / den + 2) * den ≤ k * den := Nat.mul_le_mul_right _ (by omega)
    have missed : roundEven num den < k := by
      unfold roundEven
      dsimp only
      split <;> omega
    rw [Nat.add_mul, Nat.mul_comm] at scaled
    exact iff_of_false (by omega) (by rw [Nat.mul_assoc]; omega)

/-- The exponent of the number nearest to a positive fraction, before the significand is rounded. -/
def exponentFor (num den : Nat) : Int := max (floorLog2 num den - 52) leastExponent

theorem roundEven_le (numerator : num ≠ 0) (denominator : den ≠ 0) :
    roundEven (unscale num den (exponentFor num den)).1 (unscale num den (exponentFor num den)).2 ≤
      2 ^ 53 := by
  obtain ⟨positive, same⟩ := unscale_eq num denominator (exponentFor num den)
  have above : ¬floorLog2 num den + 1 ≤ floorLog2 num den := by omega
  rw [le_floorLog2_iff numerator denominator, not_le] at above
  have scaled : (num / den / 2 ^ exponentFor num den : ℚ) < 2 ^ (53 : Int) := by
    rw [div_lt_iff₀ (by positivity), ← zpow_add₀ two_ne_zero]
    refine above.trans_le (zpow_le_zpow_right₀ one_le_two ?_)
    unfold exponentFor
    omega
  generalize unscale num den (exponentFor num den) = scaled at *
  obtain ⟨n, d⟩ := scaled
  have below : n < 2 ^ 53 * d := by
    rw [← same, div_lt_iff₀ (by exact_mod_cast Nat.pos_of_ne_zero positive)] at scaled
    exact_mod_cast scaled
  have quotient : n / d < 2 ^ 53 := Nat.div_lt_of_lt_mul (by rwa [Nat.mul_comm])
  unfold roundEven
  dsimp only
  split <;> omega

theorem ofRatio_eq (negative : Bool) (numerator : num ≠ 0) :
    ofRatio negative num den =
      let m := roundEven (unscale num den (exponentFor num den)).1
        (unscale num den (exponentFor num den)).2
      if m = 2 ^ 53 then
        if greatestExponent < exponentFor num den + 1 then .infinite negative
        else .finite negative (2 ^ 52) (exponentFor num den + 1)
      else
        if greatestExponent < exponentFor num den then .infinite negative
        else .finite negative m (exponentFor num den) := by
  unfold ofRatio
  rw [if_neg numerator]
  dsimp only [exponentFor]
  split <;> rfl

/-- A fraction rounds to a finite number if and only if it lies below the overflow. -/
theorem isFinite_ofRatio (negative : Bool) (num : Nat) (denominator : den ≠ 0) :
    (ofRatio negative num den).isFinite = true ↔ (num / den : ℚ) < overflow := by
  by_cases numerator : num = 0
  · simp [numerator, ofRatio, zero, isFinite, overflow_pos]
  have unit : (0 : ℚ) < 2 ^ greatestExponent := by positivity
  -- Fractions are compared in units of the last place of the greatest numbers.
  have reaches (k : Int) : k + 971 ≤ floorLog2 num den ↔
      (2 : ℚ) ^ k ≤ num / den / 2 ^ greatestExponent := by
    rw [le_floorLog2_iff numerator denominator, zpow_add₀ two_ne_zero, le_div_iff₀ unit]
    rfl
  have inUnits : (num / den : ℚ) < overflow ↔
      (num / den / 2 ^ greatestExponent : ℚ) < 2 ^ 53 - 1 / 2 := (div_lt_iff₀ unit).symm
  have carried := roundEven_le numerator denominator
  have scale := unscale_eq num denominator (exponentFor num den)
  rw [ofRatio_eq negative numerator, inUnits]
  dsimp only
  rcases lt_trichotomy (exponentFor num den) greatestExponent with small | last | large
  · have below : ¬52 + 971 ≤ floorLog2 num den := by
      unfold exponentFor greatestExponent at small
      omega
    rw [reaches, not_le] at below
    have finite : ¬greatestExponent < exponentFor num den := by omega
    have carry : ¬greatestExponent < exponentFor num den + 1 := by omega
    rw [if_neg finite, if_neg carry]
    refine iff_of_true (by split <;> rfl) (below.trans ?_)
    norm_num
  · rw [last] at scale carried ⊢
    generalize unscale num den greatestExponent = scaled at *
    obtain ⟨n, d⟩ := scaled
    obtain ⟨positive, same⟩ := scale
    have tie : 2 ^ 53 ≤ roundEven n d ↔ 2 * 2 ^ 53 * d ≤ 2 * n + d :=
      le_roundEven_iff (by decide) positive
    have positive' : (0 : ℚ) < d := by exact_mod_cast Nat.pos_of_ne_zero positive
    dsimp only at *
    rw [← same, div_lt_iff₀ positive']
    by_cases up : roundEven n d = 2 ^ 53
    · rw [if_pos up, if_pos (by omega)]
      have reached := tie.mp (by omega)
      refine iff_of_false (by simp [isFinite]) (not_lt.mpr ?_)
      have cast : (2 * 2 ^ 53 * d : ℚ) ≤ 2 * n + d := by exact_mod_cast reached
      linarith
    · rw [if_neg up, if_neg (by omega)]
      have missed := mt tie.mpr (by omega)
      refine iff_of_true rfl ?_
      have cast : (2 * n + d : ℚ) < 2 * 2 ^ 53 * d := by exact_mod_cast not_le.mp missed
      linarith
  · have above : 53 + 971 ≤ floorLog2 num den := by
      unfold exponentFor greatestExponent leastExponent at large
      omega
    rw [reaches] at above
    have carry : greatestExponent < exponentFor num den + 1 := by omega
    rw [if_pos large, if_pos carry]
    refine iff_of_false (by split <;> simp [isFinite]) (not_lt.mpr (le_trans ?_ above))
    norm_num

theorem ofRatio_cases (negative : Bool) (num : Nat) (denominator : den ≠ 0) :
    ofRatio negative num den = .infinite negative ∨
      ∃ m e, ofRatio negative num den = .finite negative m e ∧ m < 2 ^ 53 ∧
        e ≤ greatestExponent := by
  by_cases numerator : num = 0
  · right
    exact ⟨0, leastExponent, by simp [numerator, ofRatio, zero], by decide, by decide⟩
  have carried := roundEven_le numerator denominator
  rw [ofRatio_eq negative numerator]
  dsimp only
  split
  · split
    · exact Or.inl rfl
    · exact Or.inr ⟨_, _, rfl, by decide, by omega⟩
  · split
    · exact Or.inl rfl
    · exact Or.inr ⟨_, _, rfl, by omega, by omega⟩

theorem abs_value_finite (negative : Bool) (m : Nat) (e : Int) :
    |(finite negative m e).value| = m * 2 ^ e := by
  have least : (0 : ℚ) ≤ m * 2 ^ e := by positivity
  cases negative <;> simp [value, abs_of_nonneg least]

theorem abs_value_ofRatio_lt (negative : Bool) (num : Nat) (denominator : den ≠ 0) :
    |(ofRatio negative num den).value| < overflow := by
  rcases ofRatio_cases negative num denominator with infinite | ⟨m, e, finite, bits, exponent⟩
  · simp [infinite, value, overflow_pos]
  · rw [finite, abs_value_finite]
    have most : (m : ℚ) ≤ 2 ^ 53 - 1 := by
      have whole : (m + 1 : ℚ) ≤ 2 ^ 53 := by exact_mod_cast bits
      linarith
    calc (m : ℚ) * 2 ^ e
        ≤ (2 ^ 53 - 1) * 2 ^ greatestExponent := by
          gcongr
          exact one_le_two
      _ < overflow := by
          unfold overflow
          gcongr
          norm_num

/-- A product of finite numbers is rounded once. -/
theorem mul_eq_ofRatio (s t : Bool) (m n : Nat) (e f : Int) :
    ∃ num den : Nat, den ≠ 0 ∧ (m * n = 0 → num = 0) ∧
      (num / den : ℚ) = |(finite s m e).value * (finite t n f).value| ∧
      finite s m e * finite t n f = ofRatio (s != t) num den := by
  obtain ⟨positive, same⟩ := unscale_eq (m * n) one_ne_zero (-(e + f))
  refine ⟨(unscale (m * n) 1 (-(e + f))).1, _, positive, ?_, ?_, rfl⟩
  · intro hnone
    unfold unscale
    split <;> simp [hnone]
  · rw [same, abs_mul, abs_value_finite, abs_value_finite, zpow_neg, zpow_add₀ two_ne_zero]
    push_cast
    field_simp

theorem isFinite_mul {x y : Binary64} (hx : x.isFinite = true) (hy : y.isFinite = true) :
    (x * y).isFinite = true ↔ |x.value * y.value| < overflow := by
  match x, y, hx, hy with
  | .finite s m e, .finite t n f, _, _ =>
      obtain ⟨num, den, positive, -, same, product⟩ := mul_eq_ofRatio s t m n e f
      rw [product, ← same]
      exact isFinite_ofRatio _ num positive

/-- A product that is not finite is an infinity: factors that are finite give no NaN. -/
theorem mul_eq_infinite {x y : Binary64} (hx : x.isFinite = true) (hy : y.isFinite = true)
    (beyond : (x * y).isFinite = false) : x * y = .infinite (x.hasMinus != y.hasMinus) := by
  match x, y, hx, hy with
  | .finite s m e, .finite t n f, _, _ =>
      obtain ⟨num, den, positive, -, -, product⟩ := mul_eq_ofRatio s t m n e f
      rw [product] at beyond ⊢
      rcases ofRatio_cases (s != t) num positive with infinite | ⟨m, e, finite, -⟩
      · exact infinite
      · rw [finite] at beyond
        cases beyond

theorem not_isBelowZero_mul {x y : Binary64} (hx : x.isFinite = true) (hy : y.isFinite = true)
    (leastX : x.isBelowZero = false) (leastY : y.isBelowZero = false) :
    (x * y).isBelowZero = false := by
  match x, y, hx, hy with
  | .finite s m e, .finite t n f, _, _ =>
      obtain ⟨num, den, positive, hnone, -, product⟩ := mul_eq_ofRatio s t m n e f
      rw [product]
      by_cases sign : s = t
      · subst sign
        rw [bne_self_eq_false]
        rcases ofRatio_cases false num positive with same | ⟨k, g, same, -⟩ <;> rw [same] <;> rfl
      · -- The factor with the minus sign is a zero.
        have zero : m * n = 0 := by
          cases s <;> cases t <;> simp_all [isBelowZero]
        rw [hnone zero, ofRatio, if_pos rfl]
        simp [Binary64.zero, isBelowZero]

theorem value_nonneg {x : Binary64} (least : x.isBelowZero = false) : 0 ≤ x.value := by
  match x with
  | .finite false m e =>
      have positive : (0 : ℚ) ≤ m * 2 ^ e := by positivity
      simpa [value] using positive
  | .finite true m e =>
      have hnone : m = 0 := by simpa [isBelowZero] using least
      simp [value, hnone]
  | .infinite s => exact le_refl 0
  | .nan => exact le_refl 0

theorem abs_value_read?_lt {cs : List Char} {x : Binary64} (read : read? cs = some x) :
    |x.value| < overflow := by
  have small (negative : Bool) : |(Binary64.zero negative).value| < overflow := by
    simp [Binary64.zero, value, overflow_pos]
  unfold read? at read
  dsimp only at read
  split at read
  · cases read
  · obtain ⟨e, -, rfl⟩ := Option.map_eq_some_iff.mp read
    unfold ofDecimal
    dsimp only
    split
    · exact small _
    split
    · simp [value, overflow_pos]
    split
    · exact small _
    split
    · exact abs_value_ofRatio_lt _ _ one_ne_zero
    · exact abs_value_ofRatio_lt _ _ (Nat.pow_pos (by decide)).ne'

end ClusterWatch.Binary64

/-
# Whole numbers that the format holds exactly

A significand has fifty-three bits, so a natural number of at most `2 ^ 53` is a number of the
format.  It takes the form in which its significand is scaled up as far as it goes, and rounding it
to a whole number gives it back.
-/
import ClusterWatch.Number.Binary64
import ClusterWatch.Number.Decimal

namespace ClusterWatch.Binary64

theorem floorLog2_one {n : Nat} (positive : n ≠ 0) : floorLog2 n 1 = n.log2 := by
  have one : Nat.log2 1 = 0 := by decide
  have below : 2 ^ n.log2 ≤ n := Nat.log2_self_le positive
  simp [floorLog2, unscale, one, below]

theorem ofNat_eq_finite {n : Nat} (positive : n ≠ 0) (small : n.log2 ≤ 52) :
    ofNat n = .finite false (n * 2 ^ (52 - n.log2)) ((n.log2 : Int) - 52) := by
  have exponent : max (floorLog2 n 1 - 52) leastExponent = (n.log2 : Int) - 52 := by
    rw [floorLog2_one positive, leastExponent]
    omega
  have scaled : unscale n 1 ((n.log2 : Int) - 52) = (n * 2 ^ (52 - n.log2), 1) := by
    unfold unscale
    split
    · have most : n.log2 = 52 := by omega
      simp [most]
    · have power : (-((n.log2 : Int) - 52)).toNat = 52 - n.log2 := by omega
      rw [power]
  have bits : n * 2 ^ (52 - n.log2) < 2 ^ 53 := by
    calc n * 2 ^ (52 - n.log2)
        < 2 ^ (n.log2 + 1) * 2 ^ (52 - n.log2) :=
          Nat.mul_lt_mul_of_pos_right Nat.lt_log2_self (Nat.two_pow_pos _)
      _ = 2 ^ (n.log2 + 1 + (52 - n.log2)) := (Nat.pow_add ..).symm
      _ = 2 ^ 53 := by congr 1; omega
  have inRange : ¬greatestExponent < (n.log2 : Int) - 52 := by
    unfold greatestExponent
    omega
  simp only [ofNat, ofRatio, if_neg positive, exponent, scaled, roundEven_one,
    if_neg (Nat.ne_of_lt bits), if_neg inRange]

theorem roundNat_scaled {most n k : Nat} {e : Int} (least : n ≤ most) (scale : e = -(k : Int)) :
    roundNat most (.finite false (n * 2 ^ k) e) = n := by
  subst scale
  cases k with
  | zero => simp [roundNat, least]
  | succ k =>
      have power : (-(-((k + 1 : Nat) : Int))).toNat = k + 1 := by omega
      have half : 2 * (n * 2 ^ (k + 1)) + 2 ^ (k + 1) = 2 ^ (k + 1) + 2 ^ (k + 1 + 1) * n := by
        rw [Nat.pow_succ 2 (k + 1)]
        grind
      have below : 2 ^ (k + 1) < 2 ^ (k + 1 + 1) := Nat.pow_lt_pow_right (by decide) (by omega)
      have rounded : (2 * (n * 2 ^ (k + 1)) + 2 ^ (k + 1)) / 2 ^ (k + 1 + 1) = n := by
        rw [half, Nat.add_mul_div_left _ _ (Nat.two_pow_pos _), Nat.div_eq_of_lt below,
          Nat.zero_add]
      rw [roundNat, if_neg (by omega), power, rounded, Nat.min_eq_left least]

theorem roundNat_ofNat {n : Nat} (held : n ≤ 2 ^ 53) :
    ∃ m e, ofNat n = .finite false m e ∧ roundNat Decimal.maxU64 (.finite false m e) = n := by
  have least : n ≤ Decimal.maxU64 := Nat.le_trans held (by decide)
  by_cases positive : n = 0
  · subst positive
    have rounded := roundNat_scaled (k := 1074) (e := leastExponent) least rfl
    rw [Nat.zero_mul] at rounded
    exact ⟨0, leastExponent, rfl, rounded⟩
  by_cases top : n = 2 ^ 53
  · subst top
    exact ⟨2 ^ 52, 1, by decide, by decide⟩
  · have small : n.log2 ≤ 52 := by
      have bits := (Nat.log2_lt positive).mpr (Nat.lt_of_le_of_ne held top)
      omega
    exact ⟨_, _, ofNat_eq_finite positive small, roundNat_scaled least (by omega)⟩

end ClusterWatch.Binary64

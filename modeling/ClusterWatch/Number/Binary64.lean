/-
Numbers of the IEEE 754 format binary64, computed exactly.

A finite number is a sign, a significand and a power of two.  Every operation forms the exact
rational result and rounds once, to the nearest number of the format and to an even significand on a
tie, so results are decided by arithmetic on natural numbers alone.
-/
import ClusterWatch.Text.Letters

namespace ClusterWatch

/-- A number of the format binary64.  A finite one is `± significand * 2 ^ exponent`. -/
inductive Binary64 where
  | finite (negative : Bool) (significand : Nat) (exponent : Int)
  | infinite (negative : Bool)
  | nan
deriving DecidableEq, Repr, Inhabited

namespace Binary64

def leastExponent : Int := -1074

def greatestExponent : Int := 971

def zero (negative : Bool) : Binary64 := .finite negative 0 leastExponent

/-- The quotient `num / den` rounded to a whole number, ties to even. -/
def roundEven (num den : Nat) : Nat :=
  let q := num / den
  let r := num % den
  if 2 * r < den ∨ (2 * r = den ∧ q % 2 = 0) then q else q + 1

/-- A fraction equal to `num / den` divided by `2 ^ e`. -/
def unscale (num den : Nat) (e : Int) : Nat × Nat :=
  if 0 ≤ e then (num, den * 2 ^ e.toNat) else (num * 2 ^ (-e).toNat, den)

/-- The whole part of the binary logarithm of a positive fraction. -/
def floorLog2 (num den : Nat) : Int :=
  let k : Int := num.log2 - den.log2
  let (n, d) := unscale num den k
  if d ≤ n then k else k - 1

/-- The number nearest to `± num / den`; the denominator is positive. -/
def ofRatio (negative : Bool) (num den : Nat) : Binary64 :=
  if num = 0 then zero negative
  else
    let e := max (floorLog2 num den - 52) leastExponent
    let (n, d) := unscale num den e
    let m := roundEven n d
    let (m, e) := if m = 2 ^ 53 then (2 ^ 52, e + 1) else (m, e)
    if greatestExponent < e then .infinite negative else .finite negative m e

/-- The number nearest to `± (num / den) * 2 ^ e`. -/
def ofScaledRatio (negative : Bool) (num den : Nat) (e : Int) : Binary64 :=
  let (n, d) := unscale num den (-e)
  ofRatio negative n d

def ofNat (n : Nat) : Binary64 := ofRatio false n 1

def ofInt (i : Int) : Binary64 := ofRatio (decide (i < 0)) i.natAbs 1

/-- How many decimal digits a natural number has. -/
def decimalLength (n : Nat) : Nat := (Nat.toDigits 10 n).length

/-- The number nearest to `± digits * 10 ^ exponent`.

A value of at least `10 ^ 400` is beyond every finite number and one below `10 ^ (-400)` rounds to
zero, so the powers that are formed stay small however long the exponent is. -/
def ofDecimal (negative : Bool) (digits : Nat) (exponent : Int) : Binary64 :=
  let magnitude := exponent + decimalLength digits
  if digits = 0 then zero negative
  else if 400 < magnitude then .infinite negative
  else if magnitude < -400 then zero negative
  else if 0 ≤ exponent then ofRatio negative (digits * 10 ^ exponent.toNat) 1
  else ofRatio negative digits (10 ^ (-exponent).toNat)

def isFinite : Binary64 → Bool
  | .finite .. => true
  | _ => false

/-- Whether a number is below zero; minus zero is not. -/
def isBelowZero : Binary64 → Bool
  | .finite negative m _ => negative && m != 0
  | .infinite negative => negative
  | .nan => false

def neg : Binary64 → Binary64
  | .finite s m e => .finite (!s) m e
  | .infinite s => .infinite (!s)
  | .nan => .nan

def mul : Binary64 → Binary64 → Binary64
  | .finite s m e, .finite t n f => ofScaledRatio (s != t) (m * n) 1 (e + f)
  | .finite s m _, .infinite t => if m = 0 then .nan else .infinite (s != t)
  | .infinite s, .finite t n _ => if n = 0 then .nan else .infinite (s != t)
  | .infinite s, .infinite t => .infinite (s != t)
  | _, _ => .nan

def div : Binary64 → Binary64 → Binary64
  | .finite s m e, .finite t n f =>
      if n = 0 then (if m = 0 then .nan else .infinite (s != t))
      else ofScaledRatio (s != t) m n (e - f)
  | .finite s _ _, .infinite t => zero (s != t)
  | .infinite s, .finite t _ _ => .infinite (s != t)
  | _, _ => .nan

instance : Neg Binary64 := ⟨neg⟩
instance : Mul Binary64 := ⟨mul⟩
instance : Div Binary64 := ⟨div⟩

/-- The nearest natural number, halves away from zero, kept between zero and `most`.
A NaN gives zero. -/
def roundNat (most : Nat) : Binary64 → Nat
  | .finite false m e =>
      if 0 ≤ e then min (m * 2 ^ e.toNat) most
      else min ((2 * m + 2 ^ (-e).toNat) / 2 ^ ((-e).toNat + 1)) most
  | .infinite false => most
  | _ => 0

/-- Whether a number has a minus sign; NaN has none. -/
def hasMinus : Binary64 → Bool
  | .finite s _ _ => s
  | .infinite s => s
  | .nan => false

/-- The bit pattern of the interchange format without the sign. -/
def magnitudeBits : Binary64 → Nat
  | .finite _ m e => if m < 2 ^ 52 then m else (e + 1075).toNat * 2 ^ 52 + (m - 2 ^ 52)
  | .infinite _ => 0x7FF * 2 ^ 52
  | .nan => 0x7FF8 * 2 ^ 48

/-- The place of a number among all: bit patterns ascend with magnitudes, so a greater number has a
greater rank; the two zeros share theirs, and NaN stands above all numbers. -/
def rank (x : Binary64) : Int := if x.hasMinus then -x.magnitudeBits else x.magnitudeBits

theorem roundEven_one (n : Nat) : roundEven n 1 = n := by
  simp [roundEven, Nat.mod_one]

end Binary64
end ClusterWatch

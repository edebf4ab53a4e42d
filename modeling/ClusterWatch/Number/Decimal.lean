/-
Decimal text of whole numbers.

Writing gives the digits without leading zeros and a minus sign where needed.  Reading accepts one
leading sign and any number of leading zeros, needs at least one digit, refuses everything else and
refuses values outside the stated range.
-/
import ClusterWatch.Text.Letters

namespace ClusterWatch.Decimal

/-- The decimal digits of a natural number. -/
def digits (n : Nat) : List Char := Nat.toDigits 10 n

def ofNat (n : Nat) : String := String.ofList (digits n)

def ofInt (i : Int) : String :=
  if i < 0 then String.ofList ('-' :: digits i.natAbs) else ofNat i.natAbs

/-- The value of a digit string, most significant digit first. -/
def value (cs : List Char) : Nat := Nat.ofDigitChars 10 cs 0

/-- The value of a non-empty string of ASCII digits. -/
def readDigits? (cs : List Char) : Option Nat :=
  if cs ≠ [] ∧ cs.all Text.isDigit then some (value cs) else none

/-- Reads an unsigned number of at most `most`; a plus sign may stand in front. -/
def readNat? (most : Nat) (s : String) : Option Nat :=
  let body := match s.toList with
    | '+' :: r => r
    | r => r
  (readDigits? body).filter (· ≤ most)

/-- Reads a signed number between `least` and `most`. -/
def readInt? (least most : Int) (s : String) : Option Int :=
  let signed := match s.toList with
    | '+' :: r => (readDigits? r).map Int.ofNat
    | '-' :: r => (readDigits? r).map fun n => -Int.ofNat n
    | r => (readDigits? r).map Int.ofNat
  signed.filter fun i => decide (least ≤ i ∧ i ≤ most)

def maxU64 : Nat := 2 ^ 64 - 1

def maxU32 : Nat := 2 ^ 32 - 1

def maxU16 : Nat := 2 ^ 16 - 1

def minI64 : Int := -(2 ^ 63 : Nat)

def maxI64 : Int := (2 ^ 63 : Nat) - 1

theorem value_digits (n : Nat) : value (digits n) = n :=
  Nat.ofDigitChars_toDigits (by decide) (by decide)

theorem isDigit_eq (c : Char) : Text.isDigit c = c.isDigit := by
  simp [Text.isDigit, Char.isDigit, Char.le_def]

theorem all_isDigit_digits (n : Nat) : (digits n).all Text.isDigit = true := by
  rw [List.all_eq_true]
  intro c hc
  rw [isDigit_eq]
  exact Nat.isDigit_of_mem_toDigits (b := 10) (by decide) (by decide) hc

theorem digits_ne_nil (n : Nat) : digits n ≠ [] := Nat.toDigits_ne_nil

theorem digits_eq_cons (n : Nat) : ∃ c r, digits n = c :: r ∧ c ≠ '+' ∧ c ≠ '-' := by
  cases h : digits n with
  | nil => exact absurd h (digits_ne_nil n)
  | cons c r =>
    have hc : Text.isDigit c = true := by
      have := all_isDigit_digits n
      rw [h] at this
      simp only [List.all_cons, Bool.and_eq_true] at this
      exact this.1
    refine ⟨c, r, rfl, ?_, ?_⟩ <;> rintro rfl <;> exact absurd hc (by decide)

end ClusterWatch.Decimal

/-
The shortest decimal that reads back as a given binary64 number.

The reals that round to a positive finite number form an interval around it, whose ends belong to it
exactly when the significand is even.  For one, two, ... seventeen digits the two neighbours of the
number on that decimal grid are tested against the interval; the first grid with a hit wins, and of
two hits the nearer.  If any point of a grid lies in the interval, one of those two neighbours does,
so no shorter decimal reads back.  Where both neighbours are equally near, each format has a rule of
its own.
-/
import ClusterWatch.Number.Binary64

namespace ClusterWatch.Binary64

/-- `digits * 10 ^ exponent`. -/
structure Scientific where
  digits : Nat
  exponent : Int
deriving DecidableEq, Repr

/-- Which of two equally near decimals is taken. -/
inductive Tie where
  | toEven
  | awayFromZero
deriving DecidableEq, Repr

/-- Whether the lower of two equally near decimals is taken, given its last digits. -/
def Tie.takesLower : Tie → Nat → Bool
  | toEven, d => d % 2 == 0
  | awayFromZero, _ => false

/-- The exponent of the leading decimal digit of a positive fraction. -/
def leadingExponent (num den : Nat) : Int :=
  if den ≤ num then (decimalLength (num / den) : Int) - 1
  else
    let guess := decimalLength (den / num)
    if den ≤ num * 10 ^ (guess - 1) then -((guess : Int) - 1)
    else -(guess : Int)

/-- A candidate `d * 10 ^ t` compared with `limit / 4 * 2 ^ e` after clearing denominators: the two
sides as natural numbers. -/
def crossScale (d : Nat) (t : Int) (limit : Nat) (e : Int) : Nat × Nat :=
  let left := d * 4 * 10 ^ t.toNat * 2 ^ (-e).toNat
  let right := limit * 2 ^ e.toNat * 10 ^ (-t).toNat
  (left, right)

/-- Whether `d * 10 ^ t` rounds to `m * 2 ^ e`. -/
def readsBackAs (m : Nat) (e : Int) (d : Nat) (t : Int) : Bool :=
  let below := if m = 2 ^ 52 ∧ leastExponent < e then 4 * m - 1 else 4 * m - 2
  let (x, lo) := crossScale d t below e
  let (y, hi) := crossScale d t (4 * m + 2) e
  if m % 2 = 0 then lo ≤ x && y ≤ hi else lo < x && y < hi

/-- `d * 10 ^ t`, where `d` has `n` digits or is the least number with one more. -/
def Scientific.ofGrid (n d : Nat) (t : Int) : Scientific :=
  if d = 10 ^ n then ⟨10 ^ (n - 1), t + 1⟩ else ⟨d, t⟩

/-- The neighbours of `m * 2 ^ e` with `n` digits that read back, the nearer first. -/
def candidates (tie : Tie) (m : Nat) (e : Int) (n : Nat) : List Scientific :=
  let (num, den) := unscale m 1 (-e)
  let t := leadingExponent num den - (n : Int) + 1
  let (a, b) := if 0 ≤ t then (num, den * 10 ^ t.toNat) else (num * 10 ^ (-t).toNat, den)
  let d := a / b
  let near := if 2 * (a % b) < b ∨ (2 * (a % b) = b ∧ tie.takesLower d) then [d, d + 1]
    else [d + 1, d]
  (near.filter fun d => readsBackAs m e d t).map fun d => .ofGrid n d t

/-- The shortest decimal of a positive finite number `m * 2 ^ e`. -/
def shortest (tie : Tie) (m : Nat) (e : Int) : Scientific :=
  (((List.range 17).flatMap fun i => candidates tie m e (i + 1)).head?).getD ⟨m, 0⟩

end ClusterWatch.Binary64

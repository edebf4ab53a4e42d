/-
Numbers in JSON text.

A token without fraction and exponent denotes a whole number as long as it fits into 64 bits,
signed below zero and unsigned above; minus zero and everything larger denote a binary64 number.
Of the digits of a number only as many are kept as fit into an unsigned 64-bit significand.  The
significand is then multiplied or divided by one power of ten, so the result may differ from the
nearest number in its last bit, and a result beyond the finite numbers is refused.
-/
import ClusterWatch.Number.Binary64
import ClusterWatch.Number.Decimal

namespace ClusterWatch.Json

/-- The two ways in which reading fails: the text is no JSON, or it is and denotes something of
another kind than the one asked for. -/
inductive Fault where
  | malformed
  | mismatch
deriving DecidableEq, Repr

/-- What a number token denotes. -/
inductive Numeral where
  | whole (i : Int)
  | real (x : Binary64)
deriving DecidableEq, Repr

namespace Numeral

def toBinary64 : Numeral → Binary64
  | .whole i => Binary64.ofInt i
  | .real x => x

/-- The significand after taking in digits for as long as it fits into 64 bits, and the digits that
are left over. -/
def takeIn (significand : Nat) : List Char → Nat × List Char
  | [] => (significand, [])
  | d :: ds =>
      let grown := significand * 10 + (d.toNat - '0'.toNat)
      if Decimal.maxU64 < grown then (significand, d :: ds) else takeIn grown ds

/-- The largest power of ten that scaling uses at once. -/
def greatestPower : Int := 308

def powerOfTen (e : Int) : Binary64 := Binary64.ofDecimal false 1 e

/-- `x * 10 ^ e`, refused if it is not finite. -/
def scaleUp (x : Binary64) (e : Int) : Except Fault Binary64 :=
  if e ≤ greatestPower then
    let y := x * powerOfTen e
    if y.isFinite then .ok y else .error .malformed
  else if x = Binary64.zero false then .ok x
  else .error .malformed

/-- `x / 10 ^ n`, divided by the largest power first while the exponent exceeds it. -/
def scaleDown (x : Binary64) (n : Nat) : Binary64 :=
  if n ≤ greatestPower.toNat then x / powerOfTen n
  else if x = Binary64.zero false then x
  else scaleDown (x / powerOfTen greatestPower) (n - greatestPower.toNat)
termination_by n
decreasing_by
  have h : greatestPower.toNat = 308 := rfl
  omega

/-- The number `± significand * 10 ^ e`. -/
def ofParts (negative : Bool) (significand : Nat) (e : Int) : Except Fault Binary64 := do
  let x := Binary64.ofNat significand
  let y ← if 0 ≤ e then scaleUp x e else .ok (scaleDown x (-e).toNat)
  return if negative then -y else y

/-- The exponent whose absolute value is the largest that takes part in scaling. -/
def greatestExponent : Nat := 2 ^ 31 - 1

/-- A number whose exponent part has been read; a huge exponent gives zero or is refused. -/
def ofExponent (negative : Bool) (significand : Nat) (start : Int) (below : Bool) (e : Nat) :
    Except Fault Binary64 :=
  if greatestExponent < e then
    if significand ≠ 0 ∧ !below then .error .malformed else .ok (Binary64.zero negative)
  else ofParts negative significand (if below then start - e else start + e)

/-- Reads what follows the digits of a number: an exponent, or nothing that belongs to it. -/
def readExponent (negative : Bool) (significand : Nat) (start : Int) (cs : List Char) :
    Except Fault (Binary64 × List Char) :=
  match cs with
  | c :: r =>
      if c = 'e' ∨ c = 'E' then
        let (below, r) := match r with
          | '+' :: r => (false, r)
          | '-' :: r => (true, r)
          | r => (false, r)
        let ds := r.takeWhile Text.isDigit
        if ds.isEmpty then .error .malformed
        else do
          let x ← ofExponent negative significand start below (Decimal.value ds)
          return (x, r.drop ds.length)
      else do return (← ofParts negative significand start, c :: r)
  | [] => do return (← ofParts negative significand start, [])

/-- The whole number `± n`, or the binary64 number nearest to it if it has no 64-bit form. -/
def ofWhole (negative : Bool) (n : Nat) : Numeral :=
  if !negative then .whole n
  else if n = 0 ∨ 2 ^ 63 < n then .real (-Binary64.ofNat n)
  else .whole (-n)

def readUnsigned (negative : Bool) (cs : List Char) : Except Fault (Numeral × List Char) :=
  let ds := cs.takeWhile Text.isDigit
  let r := cs.dropWhile Text.isDigit
  if ds = [] ∨ (ds.head? = some '0' ∧ ds ≠ ['0']) then .error .malformed
  else
    let (significand, left) := takeIn 0 ds
    match r with
    | '.' :: r =>
        let fs := r.takeWhile Text.isDigit
        if fs = [] then .error .malformed
        else do
          let (significand, unused) := takeIn significand fs
          let start : Int := (left.length : Int) - (fs.length - unused.length : Nat)
          let (x, r) ← readExponent negative significand start (r.dropWhile Text.isDigit)
          return (.real x, r)
    | c :: r =>
        if c = 'e' ∨ c = 'E' ∨ left ≠ [] then do
          let (x, r) ← readExponent negative significand left.length (c :: r)
          return (.real x, r)
        else .ok (ofWhole negative significand, c :: r)
    | [] =>
        if left ≠ [] then do
          let x ← ofParts negative significand left.length
          return (.real x, [])
        else .ok (ofWhole negative significand, [])

def startsWith (c : Char) : Bool := c == '-' || Text.isDigit c

def read : List Char → Except Fault (Numeral × List Char)
  | '-' :: r => readUnsigned true r
  | r => readUnsigned false r

def skipDigits (cs : List Char) : Except Fault (List Char) :=
  if (cs.takeWhile Text.isDigit).isEmpty then .error .malformed
  else .ok (cs.dropWhile Text.isDigit)

/-- The rest after a fraction, if there is one. -/
def skipFraction : List Char → Except Fault (List Char)
  | '.' :: r => skipDigits r
  | r => .ok r

/-- The rest after an exponent, if there is one. -/
def skipExponent : List Char → Except Fault (List Char)
  | c :: r =>
      if c = 'e' ∨ c = 'E' then
        match r with
        | '+' :: r => skipDigits r
        | '-' :: r => skipDigits r
        | r => skipDigits r
      else .ok (c :: r)
  | [] => .ok []

/-- The rest after a number of which only the form is checked. -/
def skip (cs : List Char) : Except Fault (List Char) :=
  let body := match cs with
    | '-' :: r => r
    | r => r
  let ds := body.takeWhile Text.isDigit
  if ds = [] ∨ (ds.head? = some '0' ∧ ds ≠ ['0']) then .error .malformed
  else do skipExponent (← skipFraction (body.dropWhile Text.isDigit))

end Numeral
end ClusterWatch.Json

/-
Decimal literals of binary64 numbers.

A literal is an optional sign, digits with at most one decimal point among them (at least one digit
in all), and an optional exponent: `e` or `E`, an optional sign and at least one digit.  It denotes
the nearest number of the format.
-/
import ClusterWatch.Number.Binary64
import ClusterWatch.Number.Decimal

namespace ClusterWatch.Binary64

/-- An optional sign in front of a literal: whether it is a minus sign, and the rest. -/
def takeSign : List Char → Bool × List Char
  | '+' :: r => (false, r)
  | '-' :: r => (true, r)
  | r => (false, r)

/-- The power of ten written after the digits of a literal; nothing written means zero. -/
def readExponent? : List Char → Option Int
  | [] => some 0
  | c :: r =>
      if c = 'e' ∨ c = 'E' then
        let (negative, ds) := takeSign r
        (Decimal.readDigits? ds).map fun n => if negative then -(n : Int) else n
      else none

/-- The digits of a literal after its decimal point, if there is one, and what follows them. -/
def takeFraction : List Char → List Char × List Char
  | '.' :: r => (r.takeWhile Text.isDigit, r.dropWhile Text.isDigit)
  | r => ([], r)

/-- Reads a decimal literal. -/
def read? (cs : List Char) : Option Binary64 :=
  let (negative, body) := takeSign cs
  let whole := body.takeWhile Text.isDigit
  let (fraction, tail) := takeFraction (body.dropWhile Text.isDigit)
  if whole ++ fraction = [] then none
  else
    (readExponent? tail).map fun e =>
      ofDecimal negative (Decimal.value (whole ++ fraction)) (e - fraction.length)

end ClusterWatch.Binary64

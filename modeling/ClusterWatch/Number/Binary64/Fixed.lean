/-
Binary64 numbers with a fixed count of decimal places.

The exact value is rounded to the given number of places, and an exact tie goes to the even last
digit.
-/
import ClusterWatch.Number.Binary64
import ClusterWatch.Number.Decimal

namespace ClusterWatch.Binary64

/-- `units / 10 ^ places` written with all its places. -/
def fixedDigits (places units : Nat) : List Char :=
  let ds := Decimal.digits units
  let padded := List.replicate (places + 1 - ds.length) '0' ++ ds
  let whole := padded.take (padded.length - places)
  if places = 0 then whole else whole ++ '.' :: padded.drop (padded.length - places)

/-- The text of a number with `places` decimal places. -/
def toFixed (places : Nat) : Binary64 → String
  | .finite negative m e =>
      let (n, d) := unscale (m * 10 ^ places) 1 (-e)
      let text := fixedDigits places (roundEven n d)
      String.ofList (if negative then '-' :: text else text)
  | .infinite negative => if negative then "-inf" else "inf"
  | .nan => "NaN"

end ClusterWatch.Binary64

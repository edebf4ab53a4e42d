/-
JSON text of values, without any blanks.

A binary64 number prints the fewest digits that read back.  It is written positionally while its
leading digit stands between five places after the point and sixteen places before it, always with a
point, and otherwise with an exponent that always has a sign.
-/
import ClusterWatch.Json.Quoted
import ClusterWatch.Json.Value
import ClusterWatch.Number.Binary64.Shortest

namespace ClusterWatch.Json

/-- How many digits may stand in front of the point in positional notation. -/
def mostWholeDigits : Int := 16

/-- How many zeros a positional number below one may have between point and digits. -/
def mostLeadingZeros : Int := 4

def decimalText (s : Binary64.Scientific) : List Char :=
  let ds := Decimal.digits s.digits
  let point := s.exponent + ds.length
  if 0 ≤ s.exponent ∧ point ≤ mostWholeDigits then
    ds ++ List.replicate s.exponent.toNat '0' ++ ['.', '0']
  else if 0 < point ∧ point ≤ mostWholeDigits then
    ds.take point.toNat ++ '.' :: ds.drop point.toNat
  else if point ≤ 0 ∧ -mostLeadingZeros ≤ point then
    '0' :: '.' :: List.replicate (-point).toNat '0' ++ ds
  else
    ds.take 1 ++ (if ds.length ≤ 1 then [] else '.' :: ds.drop 1) ++
      'e' :: (if 0 < point then ['+'] else []) ++ (Decimal.ofInt (point - 1)).toList

/-- The text of a binary64 number; one that is not finite has none and becomes `null`. -/
def realText : Binary64 → List Char
  | .finite negative m e =>
      let body := if m = 0 then ['0', '.', '0']
        else decimalText (Binary64.shortest .toEven m e)
      if negative then '-' :: body else body
  | _ => ['n', 'u', 'l', 'l']

def joinWithCommas : List (List Char) → List Char
  | [] => []
  | [piece] => piece
  | piece :: more => piece ++ ',' :: joinWithCommas more

mutual

/-- The text of a value, characters of its strings written by `escape`. -/
def render (escape : Char → List Char) : Json → List Char
  | .null => ['n', 'u', 'l', 'l']
  | .bool true => ['t', 'r', 'u', 'e']
  | .bool false => ['f', 'a', 'l', 's', 'e']
  | .integer i => (Decimal.ofInt i).toList
  | .real x => realText x
  | .string s => Quoted.encode escape s
  | .array items => '[' :: joinWithCommas (renderItems escape items) ++ [']']
  | .object fields => '{' :: joinWithCommas (renderFields escape fields) ++ ['}']

def renderItems (escape : Char → List Char) : List Json → List (List Char)
  | [] => []
  | item :: more => render escape item :: renderItems escape more

def renderFields (escape : Char → List Char) : List (String × Json) → List (List Char)
  | [] => []
  | (name, value) :: more =>
      (Quoted.encode escape name ++ ':' :: render escape value) :: renderFields escape more

end

def toText (j : Json) : String := String.ofList (render Quoted.escape j)

end ClusterWatch.Json

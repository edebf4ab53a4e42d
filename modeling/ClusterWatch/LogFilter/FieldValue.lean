/-
Values that fields are compared with.

A value is read as the first of these that it can be: a truth value, a natural number of 64 bits, an
integer of 64 bits, a real number, and otherwise a pattern.  Each kind has a plain text of its own,
and values of different kinds are ordered by their kinds.
-/
import ClusterWatch.LogFilter.Pattern
import ClusterWatch.Number.Binary64.Literal
import ClusterWatch.Number.Binary64.Shortest

namespace ClusterWatch

/-- A value that a field is compared with. -/
inductive FieldValue where
  | truth (b : Bool)
  | real (x : Binary64)
  | natural (n : Nat)
  | integer (i : Int)
  | pattern (text : String)
deriving DecidableEq, Repr

namespace FieldValue

/-! ## Reading -/

/-- Reads a word for a number that is not finite. -/
def readUnusual? (s : String) : Option Binary64 :=
  let (negative, word) := Binary64.takeSign (Text.lowerAscii s).toList
  if word = "inf".toList ∨ word = "infinity".toList then some (.infinite negative)
  else if word = "nan".toList then some .nan
  else none

def readTruth? (s : String) : Option Bool :=
  if s = "true" then some true else if s = "false" then some false else none

/-- Reads a value that is no pattern. -/
def readPlain? (s : String) : Option FieldValue :=
  ((readTruth? s).map truth)
    |>.or ((Decimal.readNat? Decimal.maxU64 s).map natural)
    |>.or ((Decimal.readInt? Decimal.minI64 Decimal.maxI64 s).map integer)
    |>.or ((Binary64.read? s.toList).map real)
    |>.or ((readUnusual? s).map real)

/-- Reads a value; a pattern has to be one that can be used. -/
def read (s : String) : Except Pattern.Fault FieldValue :=
  match readPlain? s with
  | some value => .ok value
  | none => (Pattern.check s.toList).map fun _ => pattern s

/-! ## Writing -/

/-- A decimal written without an exponent. -/
def positional (d : Binary64.Scientific) : List Char :=
  let ds := Decimal.digits d.digits
  let places := (-d.exponent).toNat
  let padded := List.replicate (places + 1 - ds.length) '0' ++ ds
  let whole := padded.take (padded.length - places)
  match padded.drop (padded.length - places) with
  | [] => whole ++ List.replicate d.exponent.toNat '0'
  | fraction => whole ++ '.' :: fraction

/-- The plain form of a number: its shortest decimal, halves away from zero. -/
def realText : Binary64 → String
  | .finite negative m e =>
      let body := positional (if m = 0 then ⟨0, 0⟩ else Binary64.shortest .awayFromZero m e)
      String.ofList (if negative then '-' :: body else body)
  | .infinite negative => if negative then "-inf" else "inf"
  | .nan => "NaN"

def text : FieldValue → String
  | truth b => if b then "true" else "false"
  | real x => realText x
  | natural n => Decimal.ofNat n
  | integer i => Decimal.ofInt i
  | pattern s => s

/-! ## Order -/

def kindRank : FieldValue → Nat
  | truth _ => 0
  | real _ => 1
  | natural _ => 2
  | integer _ => 3
  | pattern _ => 4

/-- The place of a value among those of its kind, patterns aside. -/
def rank : FieldValue → Int
  | truth b => b.toNat
  | real x => x.rank
  | natural n => n
  | integer i => i
  | pattern _ => 0

def patternText : FieldValue → String
  | pattern s => s
  | _ => ""

/-- The order of values: by kind, within a kind by rank, and patterns by their texts. -/
def order (a b : FieldValue) : Ordering :=
  (compare a.kindRank b.kindRank).then <|
  (compare a.rank b.rank).then <|
  compare a.patternText b.patternText

end FieldValue
end ClusterWatch

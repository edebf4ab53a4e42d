/-
Resource quantities such as `250m`, `1.5`, `512Mi` or `1e3`.

A quantity is a decimal literal followed by a suffix.  The suffix starts at the first ASCII letter
other than `e` and `E`, which belong to exponents.  The literal must denote a finite number that is
not below zero; scaling by the suffix comes after that check.
-/
import ClusterWatch.Number.Binary64.Literal
import ClusterWatch.Text.Blank

namespace ClusterWatch.Quantity

inductive Fault where
  | unknownSuffix (suffix text : String)
  | invalid (text : String)
deriving DecidableEq, Repr

def Fault.message : Fault → String
  | unknownSuffix suffix text => "unknown quantity suffix '" ++ suffix ++ "' in '" ++ text ++ "'"
  | invalid text => "invalid quantity '" ++ text ++ "'"

def mebibyte : Binary64 := .ofNat (2 ^ 20)

/-- The suffixes and what they stand for. -/
def multipliers : List (String × Binary64) :=
  [("", .ofNat 1),
   ("n", .ofDecimal false 1 (-9)), ("u", .ofDecimal false 1 (-6)), ("m", .ofDecimal false 1 (-3)),
   ("k", .ofNat (10 ^ 3)), ("M", .ofNat (10 ^ 6)), ("G", .ofNat (10 ^ 9)),
   ("T", .ofNat (10 ^ 12)), ("P", .ofNat (10 ^ 15)),
   ("Ki", .ofNat (2 ^ 10)), ("Mi", mebibyte), ("Gi", .ofNat (2 ^ 30)), ("Ti", .ofNat (2 ^ 40)),
   ("Pi", .ofNat (2 ^ 50)), ("Ei", .ofNat (2 ^ 60))]

def startsSuffix (c : Char) : Bool := Text.isAsciiLetter c && c != 'e' && c != 'E'

/-- The literal and the suffix of a text without blanks around it. -/
def split (cs : List Char) : List Char × String :=
  (cs.takeWhile (!startsSuffix ·), String.ofList (cs.dropWhile (!startsSuffix ·)))

/-- Reads a quantity in its base unit: cores or bytes. -/
def read (raw : String) : Except Fault Binary64 :=
  let text := Text.trim raw
  let (literal, suffix) := split text.toList
  match multipliers.lookup suffix with
  | none => .error (.unknownSuffix suffix text)
  | some multiplier =>
    match Binary64.read? literal with
    | some x =>
        if x.isFinite && !x.isBelowZero then .ok (x * multiplier) else .error (.invalid text)
    | none => .error (.invalid text)

/-- Reads a CPU quantity in thousandths of a core, rounded. -/
def readMillicores (raw : String) : Except Fault Nat :=
  (read raw).map fun x => (x * Binary64.ofNat 1000).roundNat Decimal.maxU64

/-- Reads a memory quantity in mebibytes, rounded. -/
def readMebibytes (raw : String) : Except Fault Nat :=
  (read raw).map fun x => (x / mebibyte).roundNat Decimal.maxU64

end ClusterWatch.Quantity

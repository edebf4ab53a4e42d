/-
Sets of characters and other tables over code points.

A set is a list of runs of code points in ascending order, and membership is decided by bisection.
Large sets are written down as text: the first and the last code point of each run in hexadecimal
digits with a hyphen between them, or a single code point, with blanks or line breaks in between.
-/
import ClusterWatch.Text.Letters
import ClusterWatch.Text.Pieces

namespace ClusterWatch.Text

/-! ## Tables as text -/

def words (s : String) : List (List Char) :=
  (piecesBy ' ' (s.toList.map fun c => if c = '\n' then ' ' else c)).filter (!·.isEmpty)

def hexValue (cs : List Char) : Nat := cs.foldl (fun n c => n * 16 + (hexValue? c).getD 0) 0

/-- The last element with a key of at most `n`, from position `lo` on and before position `hi` of an
array whose keys ascend. -/
def lastUpTo? {α : Type} (key : α → Nat) (xs : Array α) (n lo hi : Nat) : Option α :=
  if hi ≤ lo + 1 then xs[lo]?.filter (key · ≤ n)
  else
    let middle := (lo + hi) / 2
    if (xs[middle]?.map key).any (· ≤ n) then lastUpTo? key xs n middle hi
    else lastUpTo? key xs n lo middle
termination_by hi - lo

/-- The last element with a key of at most `n` in an array whose keys ascend. -/
def findUpTo? {α : Type} (key : α → Nat) (xs : Array α) (n : Nat) : Option α :=
  lastUpTo? key xs n 0 xs.size

/-! ## Sets -/

/-- A run of code points, both ends included. -/
structure Run where
  first : Nat
  last : Nat
deriving DecidableEq, Repr

def Run.read (cs : List Char) : Run :=
  match cutAt? '-' cs with
  | some (first, last) => ⟨hexValue first, hexValue last⟩
  | none => ⟨hexValue cs, hexValue cs⟩

/-- A set of characters: its runs in ascending order. -/
structure CharSet where
  runs : Array Run

namespace CharSet

def ofText (s : String) : CharSet := ⟨((words s).map Run.read).toArray⟩

/-- How far a character stands behind the first of its run, if it is in a set. -/
def offset? (set : CharSet) (c : Char) : Option Nat :=
  ((findUpTo? Run.first set.runs c.toNat).filter (c.toNat ≤ ·.last)).map (c.toNat - ·.first)

def contains (set : CharSet) (c : Char) : Bool := (set.offset? c).isSome

end CharSet
end ClusterWatch.Text

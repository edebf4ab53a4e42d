/-
Tables of values that belong to characters.

A table is a list of runs of code points in ascending order, each with a value for all characters of
the run.  It is written down like a set, with a colon and the value behind each run.
-/
import ClusterWatch.Text.CharSet

namespace ClusterWatch.Text

/-- A run of code points and the value that belongs to them. -/
structure ValuedRun (α : Type) extends Run where
  value : α

/-- A table of values: its runs in ascending order. -/
structure CharTable (α : Type) where
  runs : Array (ValuedRun α)

namespace CharTable

variable {α : Type}

def ofText (value : List Char → α) (s : String) : CharTable α :=
  let read? (cs : List Char) : Option (ValuedRun α) :=
    (cutAt? ':' cs).map fun (run, text) => ⟨Run.read run, value text⟩
  ⟨((words s).filterMap read?).toArray⟩

def runOf? (table : CharTable α) (c : Char) : Option (ValuedRun α) :=
  (findUpTo? (·.first) table.runs c.toNat).filter (c.toNat ≤ ·.last)

def find? (table : CharTable α) (c : Char) : Option α := (table.runOf? c).map (·.value)

/-- The value that belongs to a character, and how far it stands behind the first of its run. -/
def offset? (table : CharTable α) (c : Char) : Option (α × Nat) :=
  (table.runOf? c).map fun run => (run.value, c.toNat - run.first)

end CharTable
end ClusterWatch.Text

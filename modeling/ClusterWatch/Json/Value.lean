/-
JSON values.

A whole number keeps apart from a number with a fraction or an exponent: `1` and `1.0` are different
values and print differently.  An object lists its fields; in a value read from text they stand in
ascending order of their names, in a value that the service writes they stand in the order in which
the service declares them.
-/
import ClusterWatch.Number.Binary64
import ClusterWatch.SortedMap

namespace ClusterWatch

inductive Json where
  | null
  | bool (b : Bool)
  | integer (i : Int)
  | real (x : Binary64)
  | string (s : String)
  | array (items : List Json)
  | object (fields : List (String × Json))
deriving Repr, Inhabited

namespace Json

/-- The object with the given entries in ascending order of their names, the last one of a name. -/
def ofEntries (entries : List (String × Json)) : Json := .object (SortedMap.ofList entries).entries

/-- The object with the given fields in their order, those without a value left out. -/
def record (fields : List (String × Option Json)) : Json :=
  .object (fields.filterMap fun (name, value) => value.map fun v => (name, v))

def nat (n : Nat) : Json := .integer n

/-- A value that may be missing, `null` if it is. -/
def orNull : Option Json → Json
  | some v => v
  | none => .null

def list {α : Type} (f : α → Json) (items : List α) : Json := .array (items.map f)

def field? (name : String) : Json → Option Json
  | .object fields => fields.lookup name
  | _ => none

end Json
end ClusterWatch

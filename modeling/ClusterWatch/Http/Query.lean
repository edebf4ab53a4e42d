/-
Queries of request targets.

A query is a list of entries with ampersands between them, each a name and behind an equals sign a
value, both in the encoding of forms: a plus sign stands for a blank, and bytes may be
percent-encoded.
-/
import ClusterWatch.Text.Percent
import ClusterWatch.Text.Pieces

namespace ClusterWatch.Http.Query

/-- A part of an entry decoded; a part whose bytes are no text is none. -/
def decodePart (cs : List Char) : Option (List Char) :=
  Text.Percent.ofUtf8? (Text.Percent.decode (cs.map fun c => if c == '+' then ' ' else c))

def cutEntry (cs : List Char) : Option (List Char) × Option (List Char) :=
  match Text.cutAt? '=' cs with
  | some (name, value) => (decodePart name, decodePart value)
  | none => (decodePart cs, some [])

def entries (query : List Char) : List (Option (List Char) × Option (List Char)) :=
  ((Text.piecesBy '&' query).filter (!·.isEmpty)).map cutEntry

inductive Fault where
  | noSwitch (name : String)
  | repeated (name : String)
deriving DecidableEq, Repr

def Fault.message : Fault → String
  | noSwitch name => name ++ ": provided string was not \x60true\x60 or \x60false\x60"
  | repeated name => "duplicate field \x60" ++ name ++ "\x60"

/-- Goes through entries for a switch of a name, given what has been found so far. -/
def readSwitchFrom (name : String) (found : Option Bool) :
    List (Option (List Char) × Option (List Char)) → Except Fault (Option Bool)
  | [] => .ok found
  | (key, value) :: more =>
      if key = some name.toList then
        if found.isSome then .error (.repeated name)
        else if value = some "true".toList then readSwitchFrom name (some true) more
        else if value = some "false".toList then readSwitchFrom name (some false) more
        else .error (.noSwitch name)
      else readSwitchFrom name found more

/-- Reads a switch; it is off where the query does not name it. -/
def readSwitch (name : String) (query : List Char) : Except Fault Bool :=
  (readSwitchFrom name none (entries query)).map fun found => found.getD false

end ClusterWatch.Http.Query

/-
Reading typed values from JSON text.

A reader takes a value from the front of the text and gives it back with the rest of the text.  It
reads from left to right and stops at the first fault, so that of a syntax error and a value of the
wrong kind the one that stands first in the text decides.  A scalar of the wrong kind is still
checked for its own form; an array or object of the wrong kind is refused at its bracket.
-/
import ClusterWatch.Json.Quoted
import ClusterWatch.Json.Value

namespace ClusterWatch.Json

/-- Takes a value from the front of a text. -/
abbrev Reader (α : Type) := List Char → Except Fault (α × List Char)

/-- The four blanks of the format. -/
def isSpace (c : Char) : Bool := c == ' ' || c == '\n' || c == '\t' || c == '\x0d'

def skipSpace (cs : List Char) : List Char := cs.dropWhile isSpace

def skipWord : List Char → List Char → Except Fault (List Char)
  | [], cs => .ok cs
  | w :: ws, c :: cs => if w = c then skipWord ws cs else .error .malformed
  | _ :: _, [] => .error .malformed

/-- What stands behind a bracket or an element: the closing bracket, given by the text after it, or
another element, given by the text from it on. -/
inductive Next where
  | close (rest : List Char)
  | element (rest : List Char)
deriving Repr

/-- Looks for the next element of a list that ends with `closing`.  Elements are separated by commas
and no comma stands before the end. -/
def next (closing : Char) (first : Bool) (cs : List Char) : Except Fault Next :=
  match skipSpace cs with
  | [] => .error .malformed
  | c :: r =>
      if c = closing then .ok (.close r)
      else if first then .ok (.element (c :: r))
      else if c = ',' then
        match skipSpace r with
        | [] => .error .malformed
        | d :: r => if d = closing then .error .malformed else .ok (.element (d :: r))
      else .error .malformed

/-- The text after the colon that follows a field's name. -/
def skipColon (cs : List Char) : Except Fault (List Char) :=
  match skipSpace cs with
  | ':' :: r => .ok r
  | _ => .error .malformed

def readName : Reader String
  | '"' :: r => Quoted.decode r
  | _ => .error .malformed

def readScalar : Reader Json
  | 'n' :: r => do return (.null, ← skipWord ['u', 'l', 'l'] r)
  | 't' :: r => do return (.bool true, ← skipWord ['r', 'u', 'e'] r)
  | 'f' :: r => do return (.bool false, ← skipWord ['a', 'l', 's', 'e'] r)
  | '"' :: r => do
      let (s, r) ← Quoted.decode r
      return (.string s, r)
  | c :: r =>
      if Numeral.startsWith c then do
        match ← Numeral.read (c :: r) with
        | (.whole i, r) => return (.integer i, r)
        | (.real x, r) => return (.real x, r)
      else .error .malformed
  | [] => .error .malformed

/-- The fault of a text that does not start with a value of the wanted kind. -/
def refusal (cs : List Char) : Fault :=
  match cs with
  | '[' :: _ => .mismatch
  | '{' :: _ => .mismatch
  | cs =>
    match readScalar cs with
    | .ok _ => .mismatch
    | .error fault => fault

/-! ## Scalars -/

def readText (cs : List Char) : Except Fault (String × List Char) :=
  match skipSpace cs with
  | '"' :: r => Quoted.decode r
  | cs => .error (refusal cs)

def readNumeral (cs : List Char) : Except Fault (Numeral × List Char) :=
  match skipSpace cs with
  | c :: r => if Numeral.startsWith c then Numeral.read (c :: r) else .error (refusal (c :: r))
  | [] => .error .malformed

/-- Reads a whole number between two bounds. -/
def readWhole (least most : Int) : Reader Int := fun cs => do
  match ← readNumeral cs with
  | (.whole i, r) => if least ≤ i ∧ i ≤ most then .ok (i, r) else .error .mismatch
  | (.real _, _) => .error .mismatch

def readNat (most : Nat) : Reader Nat := fun cs => do
  let (i, r) ← readWhole 0 most cs
  return (i.toNat, r)

def readReal : Reader Binary64 := fun cs => do
  let (n, r) ← readNumeral cs
  return (n.toBinary64, r)

/-- Reads a value that may be `null`. -/
def readOptional {α : Type} (read : Reader α) : Reader (Option α) := fun cs =>
  match skipSpace cs with
  | 'n' :: r => do return (none, ← skipWord ['u', 'l', 'l'] r)
  | cs => do
    let (v, r) ← read cs
    return (some v, r)

def Reader.map {α β : Type} (f : α → β) (read : Reader α) : Reader β := fun cs => do
  let (v, r) ← read cs
  return (f v, r)

/-! ## Arrays and dictionaries -/

/-- Reads the elements of an array after its opening bracket. -/
def readItems {α : Type} (read : Reader α) : Nat → Bool → Reader (List α)
  | 0, _, _ => .error .malformed
  | fuel + 1, first, cs => do
      match ← next ']' first cs with
      | .close r => return ([], r)
      | .element r =>
        let (v, r) ← read r
        let (vs, r) ← readItems read fuel false r
        return (v :: vs, r)

def readList {α : Type} (read : Reader α) : Reader (List α) := fun cs =>
  match skipSpace cs with
  | '[' :: r => readItems read (r.length + 1) true r
  | cs => .error (refusal cs)

/-- Reads the entries of an object after its opening bracket. -/
def readEntries {α : Type} (read : Reader α) : Nat → Bool → Reader (List (String × α))
  | 0, _, _ => .error .malformed
  | fuel + 1, first, cs => do
      match ← next '}' first cs with
      | .close r => return ([], r)
      | .element r =>
        let (name, r) ← readName r
        let (v, r) ← read (← skipColon r)
        let (vs, r) ← readEntries read fuel false r
        return ((name, v) :: vs, r)

/-- Reads an object of any names; of two entries with one name the last one stays. -/
def readMap {α : Type} (read : Reader α) : Reader (SortedMap α) := fun cs =>
  match skipSpace cs with
  | '{' :: r => do
      let (entries, r) ← readEntries read (r.length + 1) true r
      return (SortedMap.ofList entries, r)
  | cs => .error (refusal cs)

/-! ## Values of any kind -/

/-- How many brackets may be open at once where a value is built. -/
def deepestNesting : Nat := 127

/-- Reads a value in which at most `depth` brackets are open at once. -/
def readNested : Nat → Reader Json
  | depth, cs =>
    match skipSpace cs with
    | '[' :: r =>
        match depth with
        | 0 => .error .malformed
        | depth + 1 => do
            let (items, r) ← readItems (readNested depth) (r.length + 1) true r
            return (.array items, r)
    | '{' :: r =>
        match depth with
        | 0 => .error .malformed
        | depth + 1 => do
            let (entries, r) ← readEntries (readNested depth) (r.length + 1) true r
            return (ofEntries entries, r)
    | cs => readScalar cs

def readValue : Reader Json := readNested deepestNesting

/-! ## Values that are not wanted -/

inductive Bracket where
  | square
  | curly
deriving DecidableEq, Repr

def Bracket.closing : Bracket → Char
  | .square => ']'
  | .curly => '}'

/-- The text after a field's name and colon, for an element of an object. -/
def skipLabel (b : Bracket) (cs : List Char) : Except Fault (List Char) :=
  match b, cs with
  | .square, cs => .ok cs
  | .curly, '"' :: r => do skipColon (← Quoted.skip r)
  | .curly, _ => .error .malformed

/-- The text after a scalar of which only the form is checked. -/
def skipScalar : List Char → Except Fault (List Char)
  | 'n' :: r => skipWord ['u', 'l', 'l'] r
  | 't' :: r => skipWord ['r', 'u', 'e'] r
  | 'f' :: r => skipWord ['a', 'l', 's', 'e'] r
  | '"' :: r => Quoted.skip r
  | c :: r => if Numeral.startsWith c then Numeral.skip (c :: r) else .error .malformed
  | [] => .error .malformed

/-- The text after all open brackets, innermost first, have been closed. -/
def skipOpen : Nat → List Bracket → Bool → List Char → Except Fault (List Char)
  | _, [], _, cs => .ok cs
  | 0, _ :: _, _, _ => .error .malformed
  | fuel + 1, b :: outer, first, cs =>
      match next b.closing first cs with
      | .error fault => .error fault
      | .ok (.close r) => skipOpen fuel outer false r
      | .ok (.element r) =>
        match skipLabel b r with
        | .error fault => .error fault
        | .ok r =>
          match skipSpace r with
          | '[' :: r => skipOpen fuel (.square :: b :: outer) true r
          | '{' :: r => skipOpen fuel (.curly :: b :: outer) true r
          | r =>
            match skipScalar r with
            | .error fault => .error fault
            | .ok r => skipOpen fuel (b :: outer) false r

/-- The text after a value that is not wanted; its brackets may nest to any depth. -/
def skipValue (cs : List Char) : Except Fault (List Char) :=
  match skipSpace cs with
  | '[' :: r => skipOpen (r.length + 1) [.square] true r
  | '{' :: r => skipOpen (r.length + 1) [.curly] true r
  | r => skipScalar r

/-! ## Records -/

/-- A field of a record: its names, whether it must be there, and how its value changes the record
under construction. -/
structure Member (σ : Type) where
  name : String
  aliases : List String
  required : Bool
  read : Reader (σ → σ)

namespace Member

variable {σ α : Type}

/-- A field that must be there. -/
def needed (name : String) (read : Reader α) (set : α → σ → σ) : Member σ :=
  ⟨name, [], true, read.map set⟩

/-- A field that may be left out. -/
def optional (name : String) (read : Reader α) (set : α → σ → σ) : Member σ :=
  ⟨name, [], false, read.map set⟩

/-- Whether a field of an object belongs to the member. -/
def answersTo (m : Member σ) (label : String) : Bool := m.name == label || m.aliases.contains label

end Member

/-- Reads the fields of a record after the opening bracket of an object.  `seen` names the members
read so far, none of which may come again. -/
def readFields {σ : Type} (members : List (Member σ)) :
    Nat → Bool → List String → σ → Reader σ
  | 0, _, _, _, _ => .error .malformed
  | fuel + 1, first, seen, record, cs => do
      match ← next '}' first cs with
      | .close r =>
        if members.all fun m => !m.required || seen.contains m.name then .ok (record, r)
        else .error .mismatch
      | .element r =>
        let (label, r) ← readName r
        match members.find? fun m => m.answersTo label with
        | none => readFields members fuel false seen record (← skipValue (← skipColon r))
        | some m =>
          if seen.contains m.name then .error .mismatch
          else
            let (set, r) ← m.read (← skipColon r)
            readFields members fuel false (m.name :: seen) (set record) r

/-- Reads the members of a record in their order after the opening bracket of an array.  Members at
the end may be left out unless they must be there. -/
def readPositions {σ : Type} : List (Member σ) → Bool → σ → Reader σ
  | [], first, record, cs => do
      match ← next ']' first cs with
      | .close r => return (record, r)
      | .element _ => .error .malformed
  | m :: members, first, record, cs => do
      match ← next ']' first cs with
      | .close r =>
        if (m :: members).all fun m => !m.required then return (record, r)
        else .error .mismatch
      | .element r =>
        let (set, r) ← m.read r
        readPositions members false (set record) r

/-- Reads a record, starting from its default: an object with the members as fields, other fields
skipped, or an array of the members in order. -/
def readRecord {σ : Type} (members : List (Member σ)) (default : σ) : Reader σ := fun cs =>
  match skipSpace cs with
  | '{' :: r => readFields members (r.length + 1) true [] default r
  | '[' :: r => readPositions members true default r
  | cs => .error (refusal cs)

/-! ## Whole texts -/

/-- Reads a text that holds one value and nothing else but blanks. -/
def readAll {α : Type} (read : Reader α) (cs : List Char) : Except Fault α := do
  let (v, r) ← read cs
  if (skipSpace r).isEmpty then return v else .error .malformed

def ofText {α : Type} (read : Reader α) (s : String) : Except Fault α := readAll read s.toList

end ClusterWatch.Json

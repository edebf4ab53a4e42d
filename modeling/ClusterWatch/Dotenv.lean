/-
Files of variables.

A file has one entry on a line, a name and behind an equals sign a value; the word `export` may
stand in front, and a line that starts with a number sign is a comment.  In a value, single quotes
keep everything as it is, double quotes keep blanks, a backslash keeps the next character, a
dollar sign takes the value of a variable, and a blank ends the value unless it is quoted; behind
it only a comment may follow.  A quoted value may go over several lines.

Reading stops at the first entry that is not well-formed, and keeps those before it.  A variable
that has a value already keeps it.
-/
import ClusterWatch.Config
import ClusterWatch.Text.Alphanumeric

namespace ClusterWatch.Dotenv

/-- A piece of a value: a character, or the value of a variable. -/
inductive Piece where
  | char (c : Char)
  | variable (name : String)
deriving DecidableEq, Repr

structure Entry where
  name : String
  value : List Piece
deriving DecidableEq, Repr

/-! ## Lines -/

/-- Where a reader stands that looks for the end of an entry. -/
inductive Scan where
  | plain
  | blank
  | escaped
  | single
  | singleEscaped
  | double
  | doubleEscaped
deriving DecidableEq, Repr

namespace Scan

/-- The state that a character outside quotes leads to. -/
def outside (c : Char) : Scan :=
  if c == '\\' then escaped
  else if c == '"' then double
  else if c == '\x27' then single
  else plain

/-- The state after a character; none where a comment begins. -/
def step : Scan → Char → Option Scan
  | plain, c =>
      if Text.isBlank c && c != '\n' && c != '\x0d' then some blank else some (outside c)
  | blank, c => if c == '#' then none else some (outside c)
  | escaped, _ => some plain
  | single, c =>
      some (if c == '\\' then singleEscaped else if c == '\x27' then plain else single)
  | singleEscaped, _ => some single
  | double, c => some (if c == '\\' then doubleEscaped else if c == '"' then plain else double)
  | doubleEscaped, _ => some double

end Scan

def afterBreak (cs : List Char) : List Char := (cs.dropWhile (· != '\n')).drop 1

/-- Takes the text of an entry from the front, without its line break; `taken` is what has been
taken so far, last character first.  There is none where the text ends inside quotes. -/
def takeEntry? : Scan → List Char → List Char → Option (List Char × List Char)
  | s, taken, [] => if s = .plain then some (taken.reverse, []) else none
  | s, taken, c :: r =>
    match s.step c with
    | none => some (taken.reverse, afterBreak r)
    | some s =>
        if c = '\n' ∧ s = .plain then some (taken.reverse, r) else takeEntry? s (c :: taken) r

/-- Whether a text starts with a line that is a comment. -/
def startsWithComment (cs : List Char) : Bool :=
  (Text.dropBlanks (cs.takeWhile (· != '\n'))).head? == some '#'

/-! ## Values -/

/-- Where a reader of a value stands. -/
inductive Mode where
  | text
  | escaped
  | single
  | variable (braced : Bool) (name : List Char)
  | ended
deriving DecidableEq, Repr

/-- A value under construction, last piece first; `quoted` tells whether double quotes are open. -/
structure Partial where
  mode : Mode := .text
  quoted : Bool := false
  pieces : List Piece := []
deriving DecidableEq, Repr

namespace Partial

def push (p : Partial) (c : Char) : Partial := { p with pieces := .char c :: p.pieces }

def pushVariable (p : Partial) (name : List Char) : Partial :=
  { p with mode := .text, pieces := .variable (String.ofList name) :: p.pieces }

/-- The value after a character that no quote or backslash protects, or only double quotes. -/
def stepText (p : Partial) (c : Char) : Partial :=
  if c == '$' then { p with mode := .variable false [] }
  else if c == '\\' then { p with mode := .escaped }
  else if c == '"' then { p with quoted := !p.quoted }
  else if p.quoted then p.push c
  else if c == '\x27' then { p with mode := .single }
  else if c == ' ' || c == '\t' then { p with mode := .ended }
  else p.push c

/-- The characters that a backslash may stand before, and what they mean there. -/
def escape? (c : Char) : Option Char :=
  if ['\\', '\x27', '"', '$', ' '].contains c then some c
  else if c == 'n' then some '\n'
  else none

/-- The value after a character behind the name of a variable.  The character stands for itself,
even a double quote. -/
def stepVariable (p : Partial) (braced : Bool) (name : List Char) (c : Char) : Partial :=
  if Text.isAlphanumeric c then { p with mode := .variable braced (name ++ [c]) }
  else if braced then
    if c == '}' then p.pushVariable name else { p with mode := .variable true (name ++ [c]) }
  else if c == '{' && name.isEmpty then { p with mode := .variable true [] }
  else if c == '$' then { p.pushVariable name with mode := .variable false [] }
  else (p.pushVariable name).push c

/-- The value at the end of its text. -/
def finish? (p : Partial) : Option (List Piece) :=
  match p.mode with
  | .single => none
  | .variable true _ => none
  | .variable false name => if p.quoted then none else some (p.pushVariable name).pieces.reverse
  | _ => if p.quoted then none else some p.pieces.reverse

end Partial

/-- Reads a value from a state on. -/
def readValueFrom? (p : Partial) : List Char → Option (List Piece)
  | [] => p.finish?
  | c :: r =>
    match p.mode with
    | .ended =>
        if c == ' ' || c == '\t' then readValueFrom? p r
        else if c == '#' then p.finish?
        else none
    | .escaped =>
      match Partial.escape? c with
      | some d => readValueFrom? ({ p with mode := .text }.push d) r
      | none => none
    | .single => readValueFrom? (if c == '\x27' then { p with mode := .text } else p.push c) r
    | .variable braced name => readValueFrom? (p.stepVariable braced name c) r
    | .text => readValueFrom? (p.stepText c) r

/-! ## Entries -/

def startsName (c : Char) : Bool := Text.isAsciiLetter c || c == '_'

def isNameChar (c : Char) : Bool := Text.isAsciiLetter c || Text.isDigit c || c == '_' || c == '.'

/-- Takes a name and the blanks behind it from the front. -/
def takeName? (cs : List Char) : Option (List Char × List Char) :=
  if cs.head?.any startsName then
    some (cs.takeWhile isNameChar, Text.dropBlanks (cs.dropWhile isNameChar))
  else none

def takeEquals? : List Char → Option (List Char)
  | '=' :: r => some r
  | _ => none

/-- Takes a name, after `export` or not, and the equals sign behind it. -/
def takeAssignment? (cs : List Char) : Option (List Char × List Char) := do
  let (name, r) ← takeName? cs
  match takeEquals? r with
  | some r => return (name, r)
  | none =>
      if name = "export".toList then
        let (name, r) ← takeName? r
        return (name, ← takeEquals? r)
      else none

/-- Whether nothing is left but a comment. -/
def isSpent (cs : List Char) : Bool := cs.isEmpty || cs.head? == some '#'

inductive Line where
  | nothing
  | entry (e : Entry)
  | fault
deriving DecidableEq, Repr

def readLine (text : List Char) : Line :=
  let cs := Text.trimList text
  if isSpent cs then .nothing
  else
    match takeAssignment? cs with
    | none => .fault
    | some (name, r) =>
      let value := Text.dropBlanks r
      match if isSpent value then some [] else readValueFrom? {} value with
      | some pieces => .entry ⟨String.ofList name, pieces⟩
      | none => .fault

/-- Reads the entries of a text, in at most so many steps. -/
def readWithin : Nat → List Char → List Entry
  | 0, _ => []
  | _ + 1, [] => []
  | fuel + 1, c :: r =>
      if startsWithComment (c :: r) then readWithin fuel (afterBreak (c :: r))
      else
        match takeEntry? .plain [] (c :: r) with
        | none => []
        | some (text, rest) =>
          match readLine text with
          | .nothing => readWithin fuel rest
          | .entry e => e :: readWithin fuel rest
          | .fault => []

/-- Reads the entries of a text up to the first that is not well-formed; a mark of the byte order in
front does not count. -/
def read (text : String) : List Entry :=
  let cs := match text.toList with
    | '\uFEFF' :: r => r
    | r => r
  readWithin (cs.length + 1) cs

/-! ## Variables -/

/-- The value of pieces; a variable without a value is empty. -/
def expand (env : Config.Environment) (pieces : List Piece) : String :=
  String.ofList (pieces.flatMap fun
    | .char c => [c]
    | .variable name => ((env name).getD "").toList)

/-- The variables after an entry; one that has a value keeps it. -/
def define (env : Config.Environment) (e : Entry) : Config.Environment :=
  let value := expand env e.value
  fun name => match env name with
    | some value => some value
    | none => if name = e.name then some value else none

def load (env : Config.Environment) (entries : List Entry) : Config.Environment :=
  entries.foldl define env

def namesIn (entries : List Entry) : List String :=
  entries.flatMap fun e => e.name :: e.value.filterMap fun
    | .char _ => none
    | .variable name => some name

end ClusterWatch.Dotenv

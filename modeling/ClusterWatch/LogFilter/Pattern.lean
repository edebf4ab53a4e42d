/-
Patterns that values of fields are matched with.

A pattern is a regular expression with groups, alternatives, repetitions, classes of characters,
assertions and flags.  The filter only has to know whether a pattern can be used: whether it is well
formed, nests no deeper than a limit, matches nothing but text, and does without tables of the
characters outside ASCII.  So a reader goes through a pattern once and keeps of what it has read no
more than its height and whether it may be repeated.  Flags hold from where they are set to the end
of the group around them.

A field ends at its first closing brace, so a pattern holds none, and an opening brace that starts a
count or a code point never finds its end.
-/
import ClusterWatch.Text.Alphanumeric
import ClusterWatch.Text.Blank
import ClusterWatch.Text.Pieces

namespace ClusterWatch.Pattern

/-- Why a pattern cannot be used: it cannot be read, or it asks for the boundary of a word among
letters of all scripts. -/
inductive Fault where
  | unreadable
  | wordBoundary
deriving DecidableEq, Repr

def Fault.message : Fault → String
  | unreadable => "error building NFA"
  | wordBoundary =>
      "unsupported regex feature for DFAs: cannot build DFAs for regexes with Unicode word " ++
        "boundaries; switch to ASCII word boundaries, or heuristically enable Unicode word " ++
        "boundaries or use a different regex engine"

/-- The flags that decide what can be read: whether the case of letters counts, whether classes
hold characters of all scripts, and whether blanks and comments are skipped. -/
structure Flags where
  ignoreCase : Bool := false
  unicode : Bool := true
  verbose : Bool := false
deriving DecidableEq, Repr

/-- The rest after blanks and comments; a comment goes from a number sign to the end of its line. -/
def dropIgnored (inComment : Bool) : List Char → List Char
  | [] => []
  | c :: r =>
      if inComment then dropIgnored (c != '\n') r
      else if Text.isBlank c then dropIgnored false r
      else if c = '#' then dropIgnored true r
      else c :: r

/-- The rest after what the flags say is skipped. -/
def skip (flags : Flags) (cs : List Char) : List Char :=
  if flags.verbose then dropIgnored false cs else cs

/-! ## Escapes -/

/-- What an escape can stand for: a character, perhaps written as a byte; a class of digits, blanks
or word characters, perhaps negated; or an assertion, perhaps about words. -/
inductive Atom where
  | character (c : Char) (asByte : Bool)
  | named (negated : Bool)
  | assertion (aboutWords : Bool)
deriving DecidableEq, Repr

/-- A number in so many hexadecimal digits, and the rest. -/
def readHex (flags : Flags) (n : Nat) : Nat → List Char → Except Fault (Nat × List Char)
  | 0, r => .ok (n, r)
  | count + 1, r =>
    match skip flags r with
    | d :: r =>
      match Text.hexValue? d with
      | some x => readHex flags (n * 16 + x) count r
      | none => .error .unreadable
    | [] => .error .unreadable

/-- A character that is written by its code point in so many digits. -/
def readCodePoint (flags : Flags) (count : Nat) (r : List Char) :
    Except Fault (Atom × List Char) := do
  let (n, r) ← readHex flags 0 count r
  if n.isValidChar then return (.character (Char.ofNat n) (count == 2), r) else throw .unreadable

/-- Whether a character stands for itself behind a backslash. -/
def isEscapable (c : Char) : Bool :=
  c.toNat < 0x80 && !Text.isAsciiLetter c && !Text.isDigit c && c != '<' && c != '>'

def readEscape (flags : Flags) : List Char → Except Fault (Atom × List Char)
  | [] => .error .unreadable
  | c :: r =>
      if c = 'x' then readCodePoint flags 2 r
      else if c = 'u' then readCodePoint flags 4 r
      else if c = 'U' then readCodePoint flags 8 r
      else if ['d', 's', 'w'].contains c then .ok (.named false, r)
      else if ['D', 'S', 'W'].contains c then .ok (.named true, r)
      else if ['a', 'f', 't', 'n', 'r', 'v'].contains c then .ok (.character c false, r)
      else if c = 'A' ∨ c = 'z' then .ok (.assertion false, r)
      else if ['b', 'B', '<', '>'].contains c then .ok (.assertion true, r)
      else if isEscapable c then .ok (.character c false, r)
      else .error .unreadable

/-- Whether a character can be matched: a byte outside ASCII is no text, and without regard to case
only ASCII letters can be. -/
def canMatch (flags : Flags) (c : Char) (asByte : Bool) : Bool :=
  if flags.unicode then !flags.ignoreCase else !asByte || c.toNat < 0x80

/-- Whether the class of digits, blanks or word characters can be matched: that of all scripts has
no table, and what is not in that of ASCII is no text. -/
def canMatchNamed (flags : Flags) (negated : Bool) : Bool := !flags.unicode && !negated

/-! ## Classes -/

/-- Heights of parts that stand side by side: how many they are, and the greatest height. -/
structure Row where
  count : Nat := 0
  tallest : Nat := 0
deriving DecidableEq, Repr

def Row.add (row : Row) (height : Nat) : Row := ⟨row.count + 1, max row.tallest height⟩

/-- The height of a row: that of its part if it is the only one. -/
def Row.height (row : Row) : Nat := if row.count ≤ 1 then row.tallest else row.tallest + 1

/-- An open class: the height of what stands before the last operator, and the parts after it. -/
structure OpenClass where
  left : Option Nat := none
  row : Row := {}
deriving DecidableEq, Repr

namespace OpenClass

def add (c : OpenClass) (height : Nat) : OpenClass :=
  { c with row := c.row.add height }

def height (c : OpenClass) : Nat :=
  match c.left with
  | some left => 1 + max left c.row.height
  | none => c.row.height

/-- The class after an operator. -/
def operate (c : OpenClass) : OpenClass := { left := some c.height }

end OpenClass

def asciiClasses : List String :=
  ["alnum", "alpha", "ascii", "blank", "cntrl", "digit", "graph", "lower", "print", "punct",
   "space", "upper", "word", "xdigit"]

/-- Reads the name of a class of ASCII characters between colons, if there is one: whether it is
negated, and the rest. -/
def readAsciiClass? (cs : List Char) : Option (Bool × List Char) := do
  let r ← Text.dropLeading? [':'] cs
  let (negated, r) := match r with
    | '^' :: r => (true, r)
    | r => (false, r)
  let r ← asciiClasses.findSome? fun name => Text.dropLeading? (name.toList ++ [':', ']']) r
  return (negated, r)

/-- Whether a part of a class can be matched; a class has no bytes outside ASCII. -/
def canHold (flags : Flags) (c : Char) : Bool :=
  if flags.unicode then !flags.ignoreCase else c.toNat < 0x80

/-- Reads a character or a named class inside a class; a named class gives no character. -/
def readMember (flags : Flags) : List Char → Except Fault (Option Char × List Char)
  | [] => .error .unreadable
  | '\\' :: r => do
      match ← readEscape flags r with
      | (.character c _, r) => if canHold flags c then return (some c, r) else throw .unreadable
      | (.named negated, r) =>
          if canMatchNamed flags negated then return (none, r) else throw .unreadable
      | (.assertion _, _) => throw .unreadable
  | c :: r => if canHold flags c then .ok (some c, r) else .error .unreadable

/-- Reads a part of a class: a member, or a range between two characters of which the first is not
above the second. -/
def readPart (flags : Flags) (cs : List Char) : Except Fault (List Char) := do
  let (first, r) ← readMember flags cs
  match skip flags r with
  | [] => throw .unreadable
  | '-' :: r =>
    match skip flags r with
    | [] => throw .unreadable
    | c :: r' =>
        if c = ']' ∨ c = '-' then return '-' :: r
        else
          let (last, r) ← readMember flags (c :: r')
          match first, last with
          | some a, some b => if a ≤ b then return r else throw .unreadable
          | _, _ => throw .unreadable
  | r => return r

/-- Reads the hyphens at the start of a class, at most so many, each of which stands for itself. -/
def readHyphens (flags : Flags) : Nat → OpenClass → List Char → Except Fault (OpenClass × List Char)
  | 0, _, _ => .error .unreadable
  | fuel + 1, opened, cs =>
    match skip flags cs with
    | [] => .error .unreadable
    | '-' :: r =>
        if canHold flags '-' then readHyphens flags fuel (opened.add 0) r else .error .unreadable
    | r => .ok (opened, r)

/-- Reads the start of a class behind its bracket: a sign of negation, hyphens, and a closing
bracket that stands for itself if it is the first member.  What is not in a class of ASCII
characters is no text, so without the characters of all scripts no class can be negated. -/
def readOpening (flags : Flags) (cs : List Char) : Except Fault (OpenClass × List Char) := do
  let cs := skip flags cs
  let negated := cs.head? = some '^'
  if negated ∧ !flags.unicode then throw .unreadable
  let cs := if negated then cs.drop 1 else cs
  let (opened, r) ← readHyphens flags (cs.length + 1) {} cs
  match r with
  | ']' :: r =>
      if 0 < opened.row.count then return (opened, ']' :: r)
      else if !canHold flags ']' ∨ (skip flags r).isEmpty then throw .unreadable
      else return (opened.add 0, r)
  | r => return (opened, r)

def isOperator (c d : Char) : Bool := c == d && ['&', '-', '~'].contains c

/-- Reads the rest of a class, in at most so many parts, given the open classes from the innermost
on: its height, and what follows it. -/
def readClass (flags : Flags) : Nat → OpenClass → List OpenClass → List Char →
    Except Fault (Nat × List Char)
  | 0, _, _, _ => .error .unreadable
  | fuel + 1, opened, outer, cs =>
    match skip flags cs with
    | [] => .error .unreadable
    | '[' :: r =>
      match readAsciiClass? r with
      | some (negated, r) =>
          if (if flags.unicode then flags.ignoreCase else negated) then .error .unreadable
          else readClass flags fuel (opened.add 0) outer r
      | none => do
          let (inner, r) ← readOpening flags r
          readClass flags fuel inner (opened :: outer) r
    | ']' :: r =>
      match outer with
      | [] => .ok (1 + opened.height, r)
      | next :: outer => readClass flags fuel (next.add (1 + opened.height)) outer r
    | c :: r =>
        if r.head?.any (isOperator c) then readClass flags fuel opened.operate outer (r.drop 1)
        else do
          let r ← readPart flags (c :: r)
          readClass flags fuel (opened.add 0) outer r

/-! ## Groups -/

/-- An item of a pattern that can be followed by others: whether it may be repeated, and its height.
-/
structure Item where
  repeatable : Bool := true
  height : Nat := 0
deriving DecidableEq, Repr

/-- An open group: the flags outside, the alternatives before the last bar, the items of the last
alternative but its last one, and that. -/
structure Group where
  outside : Flags := {}
  alternatives : Row := {}
  items : Row := {}
  last : Option Item := none
deriving DecidableEq, Repr

namespace Group

def row (g : Group) : Row :=
  match g.last with
  | some item => g.items.add item.height
  | none => g.items

def add (g : Group) (item : Item) : Group := { g with items := g.row, last := some item }

/-- The group with its last item repeated. -/
def repeatLast? (g : Group) : Option Group :=
  match g.last with
  | some ⟨true, height⟩ => some { g with last := some ⟨true, height + 1⟩ }
  | _ => none

def alternate (g : Group) : Group :=
  { outside := g.outside, alternatives := g.alternatives.add g.row.height }

def height (g : Group) : Nat :=
  if g.alternatives.count = 0 then g.row.height else (g.alternatives.add g.row.height).height

end Group

/-- What has been read: the flags that hold, the open groups around the innermost one, that one, the
names of groups, and whether there was an assertion about words of all scripts. -/
structure Progress where
  flags : Flags := {}
  outer : List Group := []
  group : Group := {}
  names : List (List Char) := []
  aboutWords : Bool := false
deriving DecidableEq, Repr

namespace Progress

def add (p : Progress) (item : Item) : Progress := { p with group := p.group.add item }

def enter (p : Progress) (flags : Flags) : Progress :=
  { p with flags, outer := p.group :: p.outer, group := { outside := p.flags } }

def leave? (p : Progress) : Option Progress :=
  match p.outer with
  | [] => none
  | next :: outer =>
      some { p with
        flags := p.group.outside
        outer, group := next.add ⟨true, 1 + p.group.height⟩ }

end Progress

/-- Reads flags up to a colon or a closing parenthesis, given the ones before: each flag with
whether it is set, and the rest. -/
def readFlags (negating : Bool) (found : List (Char × Bool)) :
    List Char → Except Fault (List (Char × Bool) × List Char)
  | [] => .error .unreadable
  | c :: r =>
      if c = ':' ∨ c = ')' then .ok (found, c :: r)
      else if c = '-' then
        if negating ∨ r.head? = some ':' ∨ r.head? = some ')' then .error .unreadable
        else readFlags true found r
      else if !(['i', 'm', 's', 'U', 'u', 'R', 'x'].contains c) ∨ found.any (·.1 == c) then
        .error .unreadable
      else readFlags negating (found ++ [(c, !negating)]) r

def Flags.set (flags : Flags) (changes : List (Char × Bool)) : Flags :=
  { ignoreCase := (changes.lookup 'i').getD flags.ignoreCase
    unicode := (changes.lookup 'u').getD flags.unicode
    verbose := (changes.lookup 'x').getD flags.verbose }

def isNameChar (first : Bool) (c : Char) : Bool :=
  if first then c == '_' || Text.isLetter c
  else ['_', '.', '[', ']'].contains c || Text.isAlphanumeric c

/-- Reads the name of a group up to its angle bracket. -/
def readName (p : Progress) (cs : List Char) : Except Fault (List Char × List Char) :=
  match Text.cutAt? '>' cs with
  | some (c :: name, r) =>
      if isNameChar true c && name.all (isNameChar false) && !p.names.contains (c :: name) then
        .ok (c :: name, r)
      else .error .unreadable
  | _ => .error .unreadable

def readParenthesis (p : Progress) (cs : List Char) : Except Fault (Progress × List Char) := do
  let cs := skip p.flags cs
  if ["?=", "?!", "?<=", "?<!"].any fun start => start.toList.isPrefixOf cs then throw .unreadable
  match (Text.dropLeading? "?P<".toList cs).or (Text.dropLeading? "?<".toList cs) with
  | some r =>
      let (name, r) ← readName p r
      return ({ p with names := name :: p.names }.enter p.flags, r)
  | none =>
    match cs with
    | '?' :: r =>
      match ← readFlags false [] r with
      | (changes, ':' :: r) => return (p.enter (p.flags.set changes), r)
      | (changes, r) =>
          if changes.isEmpty then throw .unreadable
          else
            return ({ p with flags := p.flags.set changes }.add { repeatable := false }, r.drop 1)
    | cs => return (p.enter p.flags, cs)

/-! ## Patterns -/

def readNext (p : Progress) (c : Char) (r : List Char) : Except Fault (Progress × List Char) := do
  match c with
  | '(' => readParenthesis p r
  | ')' =>
    match p.leave? with
    | some p => return (p, r)
    | none => throw .unreadable
  | '|' => return ({ p with group := p.group.alternate }, r)
  | '[' => do
      let (opened, r) ← readOpening p.flags r
      let (height, r) ← readClass p.flags (r.length + 1) opened [] r
      return (p.add { height }, r)
  | '{' => throw .unreadable
  | '?' | '*' | '+' =>
    match p.group.repeatLast? with
    | some group => return ({ p with group }, if r.head? = some '?' then r.drop 1 else r)
    | none => throw .unreadable
  | '.' => if p.flags.unicode then return (p.add {}, r) else throw .unreadable
  | '^' | '$' => return (p.add {}, r)
  | '\\' => do
      match ← readEscape p.flags r with
      | (.character c asByte, r) =>
          if canMatch p.flags c asByte then return (p.add {}, r) else throw .unreadable
      | (.named negated, r) =>
          if canMatchNamed p.flags negated then return (p.add {}, r) else throw .unreadable
      | (.assertion aboutWords, r) =>
          return ({ p with
            aboutWords := p.aboutWords || (aboutWords && p.flags.unicode) }.add {}, r)
  | c => if canMatch p.flags c false then return (p.add {}, r) else throw .unreadable

/-- Reads a pattern to its end, in at most so many steps. -/
def readFrom : Nat → Progress → List Char → Except Fault Progress
  | 0, _, _ => .error .unreadable
  | fuel + 1, p, cs =>
    match skip p.flags cs with
    | [] => .ok p
    | c :: r => do
        let (p, r) ← readNext p c r
        readFrom fuel p r

/-- How deep a pattern may nest. -/
def greatestHeight : Nat := 250

def check (cs : List Char) : Except Fault Unit := do
  let p ← readFrom (cs.length + 1) {} cs
  if p.outer.length ≠ 0 ∨ greatestHeight < p.group.height then throw .unreadable
  if p.aboutWords then throw .wordBoundary

end ClusterWatch.Pattern

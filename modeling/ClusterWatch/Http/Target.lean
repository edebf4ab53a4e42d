/-
Targets of requests.

A target is a path and, behind a question mark, a query; what follows a number sign does not count.
It may also be written as a whole URL, of which the scheme and the authority do not count, as an
authority alone, which has no path, or as an asterisk.
-/
import ClusterWatch.Text.Letters
import ClusterWatch.Text.Pieces

namespace ClusterWatch.Http

structure Target where
  path : List Char
  query : List Char := []
deriving DecidableEq, Repr

namespace Target

/-! ## Path and query -/

def isPathChar (c : Char) : Bool := 0x20 < c.toNat && !(['<', '>', '\x60'].contains c)

def isQueryChar (c : Char) : Bool := 0x20 < c.toNat && !(['"', '<', '>'].contains c)

def readPath? (cs : List Char) : Option Target :=
  let cs := cs.takeWhile (· != '#')
  let target := match Text.cutAt? '?' cs with
    | some (path, query) => ⟨path, query⟩
    | none => ⟨cs, []⟩
  if target.path.all isPathChar && target.query.all isQueryChar then some target else none

/-! ## Authority -/

/-- What has been seen of an authority: the colons and percent signs that are not known to belong to
a user or an address, and whether a bracket has been opened and closed. -/
structure Seen where
  colons : Nat := 0
  percent : Bool := false
  opened : Bool := false
  closed : Bool := false
deriving DecidableEq, Repr

/-- The most colons of a user or an address. -/
def mostColons : Nat := 8

/-- Whether a character stands for itself in an authority. -/
def isAuthorityChar (c : Char) : Bool :=
  Text.isAsciiLetter c || Text.isDigit c ||
    ['!', '$', '&', '\x27', '(', ')', '*', '+', ',', '-', '.', ';', '=', '_', '~'].contains c

/-- What has been seen after one more character, if it may stand there. -/
def Seen.step? (seen : Seen) (c : Char) : Option Seen :=
  if c = ':' then
    if seen.colons < mostColons then some { seen with colons := seen.colons + 1 } else none
  else if c = '[' then
    if seen.percent || seen.opened then none else some { seen with opened := true }
  else if c = ']' then
    if !seen.opened || seen.closed then none
    else some { seen with closed := true, colons := 0, percent := false }
  else if c = '@' then some { seen with colons := 0, percent := false }
  else if c = '%' then some { seen with percent := true }
  else if isAuthorityChar c then some seen
  else none

/-- Whether a text is an authority: brackets are closed, one colon at most is left for the port,
percent signs belong to a user or an address, and a host follows the user. -/
def isAuthority (cs : List Char) : Bool :=
  match cs.foldlM Seen.step? {} with
  | some seen =>
      !cs.isEmpty && cs.getLast? != some '@' && seen.opened == seen.closed && seen.colons ≤ 1 &&
        !seen.percent
  | none => false

def endsAuthority (c : Char) : Bool := ['/', '?', '#'].contains c

/-! ## Whole targets -/

def isSchemeChar (c : Char) : Bool :=
  Text.isAsciiLetter c || Text.isDigit c || ['+', '-', '.', '~'].contains c

def longestScheme : Nat := 64

/-- The most bytes of a target. -/
def longestTarget : Nat := 65534

/-- Reads what follows the scheme of a whole URL; its path is never empty. -/
def readAfterScheme? (cs : List Char) : Option Target := do
  let target ← readPath? (cs.dropWhile (!endsAuthority ·))
  if isAuthority (cs.takeWhile (!endsAuthority ·)) then
    some (if target.path.isEmpty then { target with path := ['/'] } else target)
  else none

def read? (cs : List Char) : Option Target :=
  if longestTarget < (String.ofList cs).utf8ByteSize then none
  else if cs.head? = some '/' then readPath? cs
  else if cs = ['*'] then some ⟨cs, []⟩
  else
    let scheme := cs.takeWhile isSchemeChar
    match Text.dropLeading? [':', '/', '/'] (cs.dropWhile isSchemeChar) with
    | some r => if scheme.length ≤ longestScheme then readAfterScheme? r else none
    | none => if isAuthority cs then some ⟨[], []⟩ else none

def ofText? (s : String) : Option Target := read? s.toList

end Target
end ClusterWatch.Http

/-
Domain names with characters of all scripts.

A domain name is mapped, brought into normal form and cut at its dots.  A label with characters
outside ASCII is written in Punycode behind a mark.  A label that has that mark already must be
what its own characters would be written as.  Labels may not begin with a combining mark, joiners
must stand where they are seen, and the directions of labels must be plain.
-/
import ClusterWatch.Http.Domain.Direction
import ClusterWatch.Http.Domain.Joining
import ClusterWatch.Http.Domain.Mapping
import ClusterWatch.Http.Punycode
import ClusterWatch.Text.Normal

namespace ClusterWatch.Http.Domain

/-- Characters that cannot occur in the ASCII form of a domain name. -/
def isForbidden (c : Char) : Bool :=
  c.toNat ≤ 0x20 || c.toNat == 0x7F ||
    ['#', '/', ':', '<', '>', '?', '@', '[', '\\', ']', '^', '|', '%'].contains c

def isAscii (cs : List Char) : Bool := cs.all fun c => c.toNat < 0x80

/-- The mark of a label in Punycode. -/
def punycodeMark : List Char := ['x', 'n', '-', '-']

/-- The most characters of a label outside ASCII. -/
def longestLabel : Nat := 1000

/-- The most characters of a label in Punycode behind its mark. -/
def longestCode : Nat := 2000

/-- Whether the characters of a label outside ASCII may stand where they do. -/
def isSound (label : List Char) : Bool :=
  !label.head?.any Text.isMark && joinersFit [] label && label.length ≤ longestLabel

/-- Whether a label is what its characters are mapped to, and without dots and forbidden
characters. -/
def isPlain (label : List Char) : Bool :=
  ((mapped? label).map Text.normalForm) == some label &&
    !label.any fun c => c == '.' || isForbidden c

/-- The label in characters of all scripts that a mapped label stands for. -/
def labelOf? (label : List Char) : Option (List Char) :=
  match Text.dropLeading? punycodeMark label with
  | some code => do
      if !isAscii code || label.getLast? == some '-' || longestCode < code.length then none
      else
        let decoded ← Punycode.decode? code
        if isPlain decoded && isSound decoded then some decoded else none
  | none => if isAscii label || isSound label then some label else none

def labelToAscii (label : List Char) : List Char :=
  if isAscii label then label else punycodeMark ++ Punycode.encode label

def toAscii? (name : List Char) : Option (List Char) := do
  let labels := Text.piecesBy '.' (Text.normalForm (← mapped? name))
  let ascii := Text.joinWith ['.'] (labels.map labelToAscii)
  if directionsAgree (← labels.mapM labelOf?) && !ascii.any isForbidden then some ascii else none

end ClusterWatch.Http.Domain

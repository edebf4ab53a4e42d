/-
Cutting a text down to a number of characters.

A text that is too long loses its tail and gains a note that says so.  The cut is made at the last
line break that leaves room for the note, so that no line is kept in part; only a text without
such a line break is cut inside a line.
-/
import ClusterWatch.Text.Blank

namespace ClusterWatch.Text

def clipNote : String := "\n\n[truncated]"

/-- The part in front of the last line break. -/
def beforeLastBreak? (cs : List Char) : Option (List Char) :=
  match cs.reverse.dropWhile (· != '\n') with
  | [] => none
  | _ :: r => some r.reverse

/-- What a text of too many characters keeps. -/
def clipped (limit : Nat) (cs : List Char) : List Char :=
  let head := cs.take (limit - clipNote.length)
  match beforeLastBreak? head with
  | some lines => dropBlanksEnd lines
  | none => head

/-- A text of at most `limit` characters as it is, a longer one cut. -/
def clip (limit : Nat) (s : String) : String :=
  if s.length ≤ limit then s else String.ofList (clipped limit s.toList) ++ clipNote

end ClusterWatch.Text

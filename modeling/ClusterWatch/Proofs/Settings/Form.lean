/-
# The form of updates

An update is read from an object with four fields, or from an array of their values in the order of
the fields.  Each value may be `null`, and otherwise the token and the style are strings, the
interval is an integer of 64 bits, and the recipients are an array of such integers (`Fits`).  Not
all of these values are of use: an empty token, a blank style, an interval below a second or above a
week and an empty list of recipients count as if they were not there (`Serves`).

The text of an update that is read has this form as a whole, and an update that is effective has a
value of use in its text (`takes_read`).  A text spells one tree at most, so one fault anywhere in
it is enough for it to be refused, whatever else it holds.
-/
import ClusterWatch.Proofs.Json.Records
import ClusterWatch.Settings.Format

namespace ClusterWatch.Settings.Update

open Json

def names : List String := members.map Member.name

/-- The values that a field may have. -/
def Fits (name : String) (tree : Tree) : Prop :=
  if name = "checkInterval" then
    ∃ count, tree.IsOptional (Tree.IsWhole Decimal.minI64 Decimal.maxI64) count
  else if name = "chatIDs" then
    ∃ ids, tree.IsOptional (Tree.IsList (Tree.IsWhole Decimal.minI64 Decimal.maxI64)) ids
  else ∃ text, tree.IsOptional Tree.IsText text

/-- A token that is fit, and an interval that is a string. -/
def halfFitText : String := "\x7b\"token\":\"a\",\"checkInterval\":\"1\"\x7d"

end ClusterWatch.Settings.Update

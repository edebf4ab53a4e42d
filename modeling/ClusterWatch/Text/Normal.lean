/-
Normal form of text.

A letter with marks can be written in several ways: as a composite, or as a letter followed by marks
in any order.  The normal form takes everything apart, puts the marks of a letter in the order of
their combining classes, and composes again what can be composed.
-/
import ClusterWatch.Text.Composite
import ClusterWatch.Text.Mark

namespace ClusterWatch.Text

/-- The most composites within one another. -/
def deepestComposite : Nat := 4

/-- The characters that a composite is composed of, taken apart so many times. -/
def takeApart : Nat → Char → List Char
  | 0, c => [c]
  | depth + 1, c =>
    match Composite.parts? c with
    | some (a, b) => takeApart depth a ++ takeApart depth b
    | none => [c]

/-- Puts a character in front of others, behind the marks that come before it. -/
def placeMark (c : Char) : List Char → List Char
  | [] => [c]
  | d :: r =>
      if combiningClass d ≠ 0 ∧ combiningClass d < combiningClass c then d :: placeMark c r
      else c :: d :: r

/-- The characters with the marks behind each in the order of their classes. -/
def arrangeMarks (cs : List Char) : List Char := cs.foldr placeMark []

/-- Composes a character with those behind it.  `kept` holds the marks behind it that it has not
been composed with, last one first; such a mark stands in the way of all that do not have a higher
class. -/
def compose (first : Char) (kept : List Char) : List Char → List Char
  | [] => first :: kept.reverse
  | c :: r =>
      let isApart := kept.head?.any fun d => combiningClass c ≤ combiningClass d
      match if isApart then none else Composite.whole? first c with
      | some whole => compose whole kept r
      | none =>
          if combiningClass c = 0 then first :: kept.reverse ++ compose c [] r
          else compose first (c :: kept) r

/-- The normal form of a text; ASCII is in normal form. -/
def normalForm (cs : List Char) : List Char :=
  if cs.all fun c => c.toNat < 0x80 then cs
  else
    match arrangeMarks (cs.flatMap (takeApart deepestComposite)) with
    | [] => []
    | c :: r => compose c [] r

end ClusterWatch.Text

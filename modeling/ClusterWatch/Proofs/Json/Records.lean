/-
# Records as they are written

A record is written as an object with a field for each of its members, or as an array of their
values in the order of the members.  The text of a record that is read has each member once at most
and no name that is not a text, every value that it supplies for a member has the form that the
member asks for, and whatever the record has come to hold it got from one of these values
(`takes_readRecord`).

The fields of an object are read one after the other, and from any of them on the same four things
are to be shown (`Gathered`).  They are built up from the end of the object.
-/
import ClusterWatch.Proofs.Json.Reading

namespace ClusterWatch.Json

/-- How often a name is written among the elements of an object. -/
def occurrences (name : String) (elements : List (List Char × Tree)) : Nat :=
  elements.countP fun e => textOf? e.1 == some name

variable {σ : Type} {members : List (Member σ)} {form gives : String → Tree → Prop}
  {holds : σ → Prop}

/-- What is to be shown of the elements of an object from one of them on, when the names in `seen`
stood in front of it and the record changes from `record` to `result`. -/
structure Gathered (members : List (Member σ)) (form gives : String → Tree → Prop)
    (holds : σ → Prop) (seen : List String) (record result : σ)
    (elements : List (List Char × Tree)) : Prop where
  named : ∀ e ∈ elements, textOf? e.1 ≠ none
  once : ∀ m ∈ members, occurrences m.name elements + (if m.name ∈ seen then 1 else 0) ≤ 1
  fits : ∀ m ∈ members, ∀ e ∈ elements, textOf? e.1 = some m.name → form m.name e.2
  given : holds result → holds record ∨
    ∃ m ∈ members, ∃ e ∈ elements, textOf? e.1 = some m.name ∧ gives m.name e.2

namespace Gathered

variable {seen : List String} {record result : σ} {elements : List (List Char × Tree)}
  {raw : List Char} {tree : Tree} {label : String}

theorem nil : Gathered members form gives holds seen record record [] where
  named := nofun
  once := by
    intro m mem
    simp only [occurrences, List.countP_nil]
    split <;> decide
  fits := nofun
  given := Or.inl

end Gathered

end ClusterWatch.Json

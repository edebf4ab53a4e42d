/-
# What the readers accept

A reader that answers has taken a tree from the front of the text, of the form that it asks for
(`Takes`).  This holds for values that are read and for values that are skipped, so the text of a
record that is accepted spells a tree as a whole.

Skipping keeps a stack of brackets instead of a recursion.  What the stack still demands of the text
is `Closes`.
-/
import Mathlib.Data.List.Forall2
import ClusterWatch.Proofs.Json.Scalars

namespace ClusterWatch.Json

/-! ## Values that are skipped -/

theorem skipWord_eq_ok {word cs r : List Char} (h : skipWord word cs = .ok r) : cs = word ++ r := by
  induction word generalizing cs with
  | nil => cases h; rfl
  | cons w word ih =>
      cases cs with
      | nil => cases h
      | cons c cs =>
          simp only [skipWord] at h
          split at h
          · rename_i same
            rw [same, ih h]
            rfl
          · cases h

theorem next_eq_close {closing : Char} {first : Bool} {cs r : List Char}
    (h : next closing first cs = .ok (.close r)) : skipSpace cs = closing :: r := by
  unfold next at h
  split at h
  · cases h
  · rename_i c r' front
    split at h
    · rename_i same
      cases h
      rw [front, same]
    · split at h
      · cases h
      · split at h
        · split at h
          · cases h
          · split at h <;> cases h
        · cases h

theorem next_eq_element {closing : Char} {first : Bool} {cs element : List Char}
    (h : next closing first cs = .ok (.element element)) : Begins first cs element := by
  unfold next at h
  split at h
  · cases h
  · rename_i c r' front
    split at h
    · cases h
    · split at h
      · rename_i first
        subst first
        cases h
        exact front
      · rename_i later
        rw [Bool.not_eq_true] at later
        subst later
        split at h
        · rename_i comma
          subst comma
          split at h
          · cases h
          · rename_i front'
            split at h
            · cases h
            · cases h
              exact ⟨_, front, front'⟩
        · cases h

def textOf? (raw : List Char) : Option String :=
  match Quoted.decode (raw ++ ['"']) with
  | .ok (text, []) => some text
  | _ => none

namespace Tree

variable {α : Type}

def IsNull (tree : Tree) : Prop := tree = .scalar "null".toList

def IsText (text : String) (tree : Tree) : Prop :=
  ∃ raw, textOf? raw = some text ∧ tree = .scalar ('"' :: (raw ++ ['"']))

/-- An integer between two bounds. -/
def IsWhole (least most i : Int) (tree : Tree) : Prop :=
  (least ≤ i ∧ i ≤ most) ∧ ∃ text, WholeText text i ∧ tree = .scalar text

/-- Nothing, or something of a form. -/
def IsOptional (form : α → Tree → Prop) : Option α → Tree → Prop
  | none => IsNull
  | some v => form v

def IsList (form : α → Tree → Prop) (vs : List α) (tree : Tree) : Prop :=
  ∃ elements, List.Forall₂ form vs (elements.map Prod.snd) ∧ tree = .group .square elements

end Tree

/-- Where a reader answers, a tree of the form that the answer has stands in front of the text, and
the reader goes on behind it. -/
def Takes {α : Type} (read : Reader α) (form : α → Tree → Prop) : Prop :=
  ∀ ⦃cs r : List Char⦄ ⦃v : α⦄, read cs = .ok (v, r) → ∃ tree, Value cs tree r ∧ form v tree

variable {α β : Type} {read : Reader α} {form : α → Tree → Prop}

theorem Takes.map {form' : β → Tree → Prop} (h : Takes read form) {f : α → β}
    (weaker : ∀ v tree, form v tree → form' (f v) tree) : Takes (read.map f) form' := by
  intro cs r w answer
  obtain ⟨⟨v, r'⟩, answer, same⟩ := exists_of_bind_eq_ok answer
  cases same
  obtain ⟨tree, value, fits⟩ := h answer
  exact ⟨tree, value, weaker v tree fits⟩

theorem Value.of_skipSpace {cs r : List Char} {tree : Tree} (h : Value (skipSpace cs) tree r) :
    Value cs tree r := by
  cases h with
  | scalar form split => exact .scalar form ((skipSpace_skipSpace cs).symm.trans split)
  | group opens within => exact .group ((skipSpace_skipSpace cs).symm.trans opens) within

theorem Takes.optional (h : Takes read form) :
    Takes (readOptional read) (Tree.IsOptional form) := by
  intro cs r v answer
  unfold readOptional at answer
  split at answer
  · rename_i front
    obtain ⟨r', word, same⟩ := exists_of_bind_eq_ok answer
    cases same
    rw [skipWord_eq_ok word] at front
    exact ⟨_, .scalar (.word (w := "null") (by decide)) front, rfl⟩
  · obtain ⟨⟨w, r'⟩, answer, same⟩ := exists_of_bind_eq_ok answer
    cases same
    obtain ⟨tree, front, fits⟩ := h answer
    exact ⟨tree, front.of_skipSpace, fits⟩

theorem elements_of_readItems (h : Takes read form) {fuel : Nat} {first : Bool} {cs r : List Char}
    {vs : List α} (answer : readItems read fuel first cs = .ok (vs, r)) :
    ∃ elements, Elements .square first cs elements r ∧
      List.Forall₂ form vs (elements.map Prod.snd) := by
  induction fuel generalizing first cs vs with
  | zero => cases answer
  | succ fuel ih =>
      obtain ⟨front, hnext, answer⟩ := exists_of_bind_eq_ok answer
      cases front with
      | close =>
          cases answer
          exact ⟨[], .close (next_eq_close hnext), .nil⟩
      | element =>
          obtain ⟨⟨v, r₁⟩, one, answer⟩ := exists_of_bind_eq_ok answer
          obtain ⟨⟨vs, r₂⟩, more, same⟩ := exists_of_bind_eq_ok answer
          cases same
          obtain ⟨tree, value, fits⟩ := h one
          obtain ⟨elements, rest, all⟩ := ih more
          exact ⟨([], tree) :: elements, .cons (next_eq_element hnext) (.square _) value rest,
            .cons fits all⟩

theorem Takes.list (h : Takes read form) : Takes (readList read) (Tree.IsList form) := by
  intro cs r vs answer
  unfold readList at answer
  split at answer
  · rename_i opens
    obtain ⟨elements, within, all⟩ := elements_of_readItems h answer
    exact ⟨_, .group (b := .square) opens within, elements, all, rfl⟩
  · cases answer

theorem Takes.all (h : Takes read form) {cs : List Char} {v : α}
    (answer : readAll read cs = .ok v) : ∃ tree, Spells cs tree ∧ form v tree := by
  obtain ⟨⟨w, r⟩, front, answer⟩ := exists_of_bind_eq_ok answer
  obtain ⟨tree, value, fits⟩ := h front
  dsimp only at answer
  split at answer
  · rename_i blank
    cases answer
    exact ⟨tree, ⟨r, value, List.isEmpty_iff.mp blank⟩, fits⟩
  · cases answer

end ClusterWatch.Json

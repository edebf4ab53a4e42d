/-
# Recipients without repetitions

Recipients are gone through from the first to the last, and one that is not in the result yet is put
at its end.  So the result of a list that is one id longer is the result of the shorter list, with
that id behind it if it is new (`distinct_snoc`); what holds of every result follows from this step
by induction on the list from its end.

The order of first occurrences is told by indices: `ids.idxOf id` is the place of the first
occurrence of `id`, or the length of the list where there is none.  Where the list grows at its end,
one more pair of ids comes into this order, and only if the id at the end is new
(`idxOf_snoc_lt_iff`).
-/
import ClusterWatch.Settings
import Mathlib.Data.List.Induction

namespace ClusterWatch.Settings

variable {ids : List Int} {id x y : Int}

theorem distinct_snoc (ids : List Int) (id : Int) :
    distinct (ids ++ [id]) =
      if id ∈ distinct ids then distinct ids else distinct ids ++ [id] := by
  simp [distinct, List.foldl_append]

theorem mem_distinct : id ∈ distinct ids ↔ id ∈ ids := by
  induction ids using List.reverseRecOn with
  | nil => rfl
  | append_singleton ids last ih =>
      rw [distinct_snoc, List.mem_append, List.mem_singleton]
      split
      · next old =>
        rw [ih]
        refine ⟨Or.inl, ?_⟩
        rintro (before | rfl)
        · exact before
        · exact ih.mp old
      · rw [List.mem_append, List.mem_singleton, ih]

theorem nodup_distinct (ids : List Int) : (distinct ids).Nodup := by
  induction ids using List.reverseRecOn with
  | nil => exact List.nodup_nil
  | append_singleton ids last ih =>
      rw [distinct_snoc]
      split
      · exact ih
      · next new =>
        refine List.nodup_append.mpr ⟨ih, List.pairwise_singleton _ last, ?_⟩
        rintro a before b here rfl
        exact new (List.mem_singleton.mp here ▸ before)

theorem distinct_eq_nil_iff : distinct ids = [] ↔ ids = [] := by
  simp only [List.eq_nil_iff_forall_not_mem, mem_distinct]

theorem distinct_eq_self (once : ids.Nodup) : distinct ids = ids := by
  induction ids using List.reverseRecOn with
  | nil => rfl
  | append_singleton ids last ih =>
      obtain ⟨before, -, apart⟩ := List.nodup_append.mp once
      have new : last ∉ distinct ids := by
        rw [mem_distinct]
        exact fun again => apart last again last List.mem_cons_self rfl
      rw [distinct_snoc, if_neg new, ih before]

theorem idxOf_snoc_lt_iff (l : List Int) (last : Int) :
    (l ++ [last]).idxOf x < (l ++ [last]).idxOf y ↔
      l.idxOf x < l.idxOf y ∨ (x = last ∧ x ∉ l ∧ y ∉ l ∧ y ≠ last) := by
  have within (z : Int) (there : z ∈ l) : l.idxOf z < l.length :=
    List.idxOf_lt_length_iff.mpr there
  have beyond (z : Int) (absent : z ∉ l) : l.idxOf z = l.length := List.idxOf_eq_length absent
  have alone (z : Int) : [last].idxOf z = if z = last then 0 else 1 := by
    simp [List.idxOf_cons, Bool.cond_eq_ite, eq_comm (a := last)]
  rw [List.idxOf_append, List.idxOf_append, alone, alone]
  by_cases thereX : x ∈ l <;> by_cases thereY : y ∈ l
  · simp [thereX, thereY]
  · have first := within x thereX
    have second := beyond y thereY
    simp only [thereX, thereY, if_true, if_false, not_true, false_and, and_false, or_false]
    omega
  · have first := beyond x thereX
    have second := within y thereY
    simp only [thereX, thereY, if_true, if_false, not_true, false_and, and_false, or_false]
    omega
  · have first := beyond x thereX
    have second := beyond y thereY
    simp only [thereX, thereY, if_false]
    split <;> split <;> simp_all

theorem idxOf_distinct_lt_iff (ids : List Int) (x y : Int) :
    (distinct ids).idxOf x < (distinct ids).idxOf y ↔ ids.idxOf x < ids.idxOf y := by
  induction ids using List.reverseRecOn with
  | nil => rfl
  | append_singleton ids last ih =>
      rw [distinct_snoc, idxOf_snoc_lt_iff]
      split
      · next old =>
        rw [ih]
        refine ⟨Or.inl, ?_⟩
        rintro (before | ⟨rfl, new, -⟩)
        · exact before
        · exact absurd (mem_distinct.mp old) new
      · rw [idxOf_snoc_lt_iff, ih, mem_distinct, mem_distinct]

/-- Of any recipients each is kept once, where it occurs first: none is there twice, none is left
out and none comes in, and one comes before another if and only if its first occurrence does.
Nothing is left only where nothing was, a list is left as it is if and only if it has no
repetitions, and there is nothing to leave out the second time. -/
theorem distinct_keeps_first_occurrences (ids : List Int) :
    (distinct ids).Nodup ∧
      (∀ id, id ∈ distinct ids ↔ id ∈ ids) ∧
      (∀ x y, (distinct ids).idxOf x < (distinct ids).idxOf y ↔ ids.idxOf x < ids.idxOf y) ∧
      (distinct ids = [] ↔ ids = []) ∧
      (distinct ids = ids ↔ ids.Nodup) ∧
      distinct (distinct ids) = distinct ids := by
  refine ⟨nodup_distinct ids, fun id => mem_distinct, idxOf_distinct_lt_iff ids,
    distinct_eq_nil_iff, ⟨?_, distinct_eq_self⟩, distinct_eq_self (nodup_distinct ids)⟩
  intro same
  rw [← same]
  exact nodup_distinct ids

end ClusterWatch.Settings

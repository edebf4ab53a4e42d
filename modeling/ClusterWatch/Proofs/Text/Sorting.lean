/-
# Sorting by a text

A list is sorted by a text that belongs to each of its elements, and elements with the same text
stay in their order.  Both together leave one list only: it is determined by its elements with each
text (`eq_of_sorted`), and sorting changes none of these (`filter_sortedBy`).
-/

namespace ClusterWatch.Text

variable {α : Type} (key : α → String)

/-- The list in ascending order of a text, elements with the same text in their order. -/
def sortedBy (l : List α) : List α := l.mergeSort fun a b => decide (key a ≤ key b)

variable {key} {l r : List α}

theorem perm_sortedBy : (sortedBy key l).Perm l := List.mergeSort_perm ..

theorem decide_le_trans (a b c : α) (ab : decide (key a ≤ key b)) (bc : decide (key b ≤ key c)) :
    decide (key a ≤ key c) :=
  decide_eq_true (String.le_trans (of_decide_eq_true ab) (of_decide_eq_true bc))

theorem decide_le_total (a b : α) : decide (key a ≤ key b) || decide (key b ≤ key a) := by
  simpa using String.le_total (key a) (key b)

theorem pairwise_sortedBy : (sortedBy key l).Pairwise fun a b => key a ≤ key b :=
  (List.pairwise_mergeSort decide_le_trans decide_le_total l).imp of_decide_eq_true

theorem filter_sortedBy (k : String) :
    (sortedBy key l).filter (key · = k) = l.filter (key · = k) := by
  have level : (l.filter (key · = k)).Pairwise fun a b => decide (key a ≤ key b) := by
    refine List.pairwise_of_forall_mem_list fun a ha b hb => ?_
    rw [of_decide_eq_true (List.mem_filter.mp ha).2, of_decide_eq_true (List.mem_filter.mp hb).2]
    exact decide_eq_true (String.le_refl k)
  have within : (l.filter (key · = k)).Sublist (sortedBy key l) :=
    List.sublist_mergeSort decide_le_trans decide_le_total level List.filter_sublist
  have part := within.filter (key · = k)
  rw [List.filter_filter] at part
  simp only [Bool.and_self] at part
  exact (part.eq_of_length (perm_sortedBy.filter _).length_eq.symm).symm

theorem head_le_of_filter_eq {a b : α} (left : (a :: l).Pairwise fun a b => key a ≤ key b)
    (same : ∀ k, (a :: l).filter (key · = k) = (b :: r).filter (key · = k)) : key a ≤ key b := by
  have there : b ∈ (a :: l).filter (key · = key b) := by
    rw [same]
    exact List.mem_filter.mpr ⟨List.mem_cons_self, by simp⟩
  rcases List.mem_cons.mp (List.mem_filter.mp there).1 with rfl | behind
  · exact String.le_refl _
  · exact (List.pairwise_cons.mp left).1 b behind

/-- Of two sorted lists with the same elements for each text there is only one. -/
theorem eq_of_sorted (left : l.Pairwise fun a b => key a ≤ key b)
    (right : r.Pairwise fun a b => key a ≤ key b)
    (same : ∀ k, l.filter (key · = k) = r.filter (key · = k)) : l = r := by
  induction l generalizing r with
  | nil =>
      cases r with
      | nil => rfl
      | cons b r => simpa using same (key b)
  | cons a l ih =>
      cases r with
      | nil => simpa using same (key a)
      | cons b r =>
          have level : key a = key b :=
            String.le_antisymm (head_le_of_filter_eq left same)
              (head_le_of_filter_eq right fun k => (same k).symm)
          have heads := same (key a)
          rw [List.filter_cons_of_pos (by simp), List.filter_cons_of_pos (by simp [level])] at heads
          obtain ⟨rfl, -⟩ := List.cons.inj heads
          have tails (k : String) : l.filter (key · = k) = r.filter (key · = k) := by
            have whole := same k
            rw [List.filter_cons, List.filter_cons] at whole
            split at whole
            · exact (List.cons.inj whole).2
            · exact whole
          rw [ih (List.pairwise_cons.mp left).2 (List.pairwise_cons.mp right).2 tails]

end ClusterWatch.Text

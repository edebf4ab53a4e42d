/-
# What is found in a map determines it

Each key stands once in a map and in its place, so two maps in which the same is found under every
key have the same entries.
-/
import ClusterWatch.SortedMap

namespace ClusterWatch.SortedMap

variable {α β : Type}

theorem lookup_mapValues (f : α → β) (k : String) (l : List (String × α)) :
    (l.map fun e => (e.1, f e.2)).lookup k = (l.lookup k).map f := by
  induction l with
  | nil => rfl
  | cons e l ih =>
      rw [List.map_cons, List.lookup_cons, List.lookup_cons, ih]
      cases k == e.1 <;> rfl

theorem lookup_eq_some_iff_mem (k : String) (l : List (String × α)) :
    (∃ v, l.lookup k = some v) ↔ k ∈ l.map Prod.fst := by
  induction l with
  | nil => simp
  | cons e l ih =>
      rw [List.map_cons, List.mem_cons, List.lookup_cons, ← ih]
      by_cases same : k = e.1
      · simp [same]
      · have other : (k == e.1) = false := by simpa using same
        simp [same, other]

theorem mem_iff_of_lookup {l r : List (String × α)} (same : ∀ k, l.lookup k = r.lookup k)
    (k : String) : k ∈ l.map Prod.fst ↔ k ∈ r.map Prod.fst := by
  rw [← lookup_eq_some_iff_mem, ← lookup_eq_some_iff_mem, same]

theorem entries_eq_of_lookup {l r : List (String × α)} (left : (l.map Prod.fst).Pairwise (· < ·))
    (right : (r.map Prod.fst).Pairwise (· < ·)) (same : ∀ k, l.lookup k = r.lookup k) : l = r := by
  induction l generalizing r with
  | nil =>
      cases r with
      | nil => rfl
      | cons e r => simpa using mem_iff_of_lookup same e.1
  | cons e l ih =>
      cases r with
      | nil => simpa using mem_iff_of_lookup same e.1
      | cons e' r =>
          obtain ⟨k, v⟩ := e
          obtain ⟨k', v'⟩ := e'
          simp only [List.map_cons, List.pairwise_cons] at left right
          -- The first key of either list stands in the other one, and nothing stands below it.
          have first : k = k' := by
            rcases List.mem_cons.mp ((mem_iff_of_lookup same k).mp List.mem_cons_self) with
              equal | above
            · exact equal
            · rcases List.mem_cons.mp ((mem_iff_of_lookup same k').mpr List.mem_cons_self) with
                equal | above'
              · exact equal.symm
              · exact absurd (left.1 k' above') (String.lt_asymm (right.1 k above))
          subst first
          have value := same k
          rw [List.lookup_cons_self, List.lookup_cons_self] at value
          cases value
          have rest (j : String) : l.lookup j = r.lookup j := by
            by_cases equal : j = k
            · rw [equal, lookup_eq_none_of_forall_lt left.1, lookup_eq_none_of_forall_lt right.1]
            · have other : (j == k) = false := by simpa using equal
              simpa [List.lookup_cons, other] using same j
          rw [ih left.2 right.2 rest]

theorem find?_upsert (m : SortedMap α) (k j : String) (f : Option α → α) :
    (m.upsert k f).find? j = if j = k then some (f (m.find? k)) else m.find? j :=
  lookup_upsertEntries k j f m.entries m.ascending

theorem find?_mapValues (f : α → β) (m : SortedMap α) (k : String) :
    (m.mapValues f).find? k = (m.find? k).map f :=
  lookup_mapValues f k m.entries

theorem mem_keys_iff (m : SortedMap α) (k : String) : k ∈ m.keys ↔ ∃ v, m.find? k = some v :=
  (lookup_eq_some_iff_mem k m.entries).symm

/-- Two maps in which the same is found are the same. -/
theorem ext_find? {a b : SortedMap α} (same : ∀ k, a.find? k = b.find? k) : a = b :=
  ext (entries_eq_of_lookup a.ascending b.ascending same)

theorem mapAccumEntries_of_view {σ τ : Type} {f : σ → String → α → β × σ}
    {g : τ → String → α → β × τ} (view : τ → σ)
    (same : ∀ t k v, f (view t) k v = ((g t k v).1, view (g t k v).2)) (t : τ)
    (entries : List (String × α)) :
    mapAccumEntries f (view t) entries =
      ((mapAccumEntries g t entries).1, view (mapAccumEntries g t entries).2) := by
  induction entries generalizing t with
  | nil => rfl
  | cons e entries ih => simp only [mapAccumEntries, same, ih]

end ClusterWatch.SortedMap

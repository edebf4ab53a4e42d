/-
Maps from text to values whose keys are listed in ascending order.

Namespaces are always visited in ascending order of their names, in prompts, in messages and in
answers, so the order belongs to the type.  Text is ordered by code points, which is also the order
of its UTF-8 bytes.  The list of entries determines the map: two maps with the same entries are
equal.
-/
namespace ClusterWatch

/-- A finite map with text keys in strictly ascending order. -/
structure SortedMap (α : Type) where
  entries : List (String × α)
  ascending : (entries.map Prod.fst).Pairwise (· < ·)

namespace SortedMap

variable {α β : Type}

@[ext] theorem ext {a b : SortedMap α} (h : a.entries = b.entries) : a = b := by
  cases a; cases b; cases h; rfl

instance [DecidableEq α] : DecidableEq (SortedMap α) := fun a b =>
  if h : a.entries = b.entries then isTrue (ext h) else isFalse fun e => h (e ▸ rfl)

instance [Repr α] : Repr (SortedMap α) := ⟨fun m n => reprPrec m.entries n⟩

def empty : SortedMap α := ⟨[], List.Pairwise.nil⟩

instance : Inhabited (SortedMap α) := ⟨empty⟩

def keys (m : SortedMap α) : List String := m.entries.map Prod.fst

/-- The values in the order of their keys. -/
def values (m : SortedMap α) : List α := m.entries.map Prod.snd

def find? (m : SortedMap α) (k : String) : Option α := m.entries.lookup k

/-- The value at `k` in a list of entries replaced by `f` of what was there. -/
def upsertEntries (k : String) (f : Option α → α) : List (String × α) → List (String × α)
  | [] => [(k, f none)]
  | (j, v) :: r =>
      if k < j then (k, f none) :: (j, v) :: r
      else if k = j then (k, f (some v)) :: r
      else (j, v) :: upsertEntries k f r

theorem mem_keys_upsertEntries {k j : String} {f : Option α → α} {l : List (String × α)}
    (h : j ∈ (upsertEntries k f l).map Prod.fst) : j = k ∨ j ∈ l.map Prod.fst := by
  induction l with
  | nil => simpa [upsertEntries] using h
  | cons e r ih =>
    obtain ⟨i, v⟩ := e
    simp only [upsertEntries] at h
    split at h
    · simpa using h
    · split at h
      · next heq => subst heq; simpa using h
      · simp only [List.map_cons, List.mem_cons] at h ⊢
        rcases h with h | h
        · exact Or.inr (Or.inl h)
        · exact (ih h).imp id Or.inr

theorem ascending_upsertEntries (k : String) (f : Option α → α) (l : List (String × α))
    (h : (l.map Prod.fst).Pairwise (· < ·)) :
    ((upsertEntries k f l).map Prod.fst).Pairwise (· < ·) := by
  induction l with
  | nil => simp [upsertEntries]
  | cons e r ih =>
    obtain ⟨j, v⟩ := e
    simp only [List.map_cons, List.pairwise_cons] at h
    simp only [upsertEntries]
    split
    · next hkj =>
      simp only [List.map_cons, List.pairwise_cons, List.mem_cons]
      refine ⟨fun i hi => ?_, h.1, h.2⟩
      rcases hi with rfl | hi
      · exact hkj
      · exact String.lt_trans hkj (h.1 i hi)
    · split
      · next hkj heq =>
        subst heq
        simpa using h
      · next hkj hne =>
        simp only [List.map_cons, List.pairwise_cons]
        refine ⟨fun i hi => ?_, ih h.2⟩
        rcases mem_keys_upsertEntries hi with rfl | hi
        · exact Std.lt_of_le_of_ne hkj (Ne.symm hne)
        · exact h.1 i hi

/-- The map with the value at `k` replaced by `f` of what was there. -/
def upsert (m : SortedMap α) (k : String) (f : Option α → α) : SortedMap α :=
  ⟨upsertEntries k f m.entries, ascending_upsertEntries k f m.entries m.ascending⟩

def insert (m : SortedMap α) (k : String) (v : α) : SortedMap α := m.upsert k fun _ => v

/-- The map built by inserting entries one after the other, so that the last one of a key stays. -/
def ofList (l : List (String × α)) : SortedMap α := l.foldl (fun m e => m.insert e.1 e.2) empty

/-- The map with the same keys and each value replaced. -/
def mapValues (f : α → β) (m : SortedMap α) : SortedMap β :=
  ⟨m.entries.map fun e => (e.1, f e.2), by
    have h : (m.entries.map fun e => (e.1, f e.2)).map Prod.fst = m.entries.map Prod.fst := by
      simp
    rw [h]; exact m.ascending⟩

/-- The entries of a map visited in order, each value replaced while a state is passed on. -/
def mapAccumEntries {σ : Type} (f : σ → String → α → β × σ) (s : σ) :
    List (String × α) → List (String × β) × σ
  | [] => ([], s)
  | (k, v) :: r =>
      let (w, s) := f s k v
      let (r, s) := mapAccumEntries f s r
      ((k, w) :: r, s)

theorem keys_mapAccumEntries {σ : Type} (f : σ → String → α → β × σ) (s : σ)
    (l : List (String × α)) : (mapAccumEntries f s l).1.map Prod.fst = l.map Prod.fst := by
  induction l generalizing s with
  | nil => rfl
  | cons e r ih => simp [mapAccumEntries, ih]

/-- The map with each value replaced, visited in the order of the keys with a state passed on. -/
def mapAccum {σ : Type} (f : σ → String → α → β × σ) (s : σ) (m : SortedMap α) : SortedMap β × σ :=
  (⟨(mapAccumEntries f s m.entries).1, by rw [keys_mapAccumEntries]; exact m.ascending⟩,
    (mapAccumEntries f s m.entries).2)

def size (m : SortedMap α) : Nat := m.entries.length

def filter (p : String → α → Bool) (m : SortedMap α) : SortedMap α :=
  ⟨m.entries.filter fun e => p e.1 e.2,
    m.ascending.sublist ((List.filter_sublist).map Prod.fst)⟩

@[simp] theorem entries_empty : (empty : SortedMap α).entries = [] := rfl

@[simp] theorem entries_upsert (m : SortedMap α) (k : String) (f : Option α → α) :
    (m.upsert k f).entries = upsertEntries k f m.entries := rfl

@[simp] theorem keys_mapValues (f : α → β) (m : SortedMap α) : (m.mapValues f).keys = m.keys := by
  simp [keys, mapValues]

/-- Inserting above every key appends. -/
theorem upsertEntries_above (k : String) (f : Option α → α) (l : List (String × α))
    (h : ∀ j ∈ l.map Prod.fst, j < k) : upsertEntries k f l = l ++ [(k, f none)] := by
  induction l with
  | nil => rfl
  | cons e r ih =>
    obtain ⟨j, v⟩ := e
    have hj : j < k := h j (by simp)
    have h1 : ¬ k < j := String.lt_asymm hj
    have h2 : ¬ k = j := fun he => String.lt_irrefl j (he ▸ hj)
    simp [upsertEntries, h1, h2, ih fun i hi => h i (by simp [hi])]

theorem lookup_eq_none_of_forall_lt {k : String} {l : List (String × α)}
    (h : ∀ j ∈ l.map Prod.fst, k < j) : l.lookup k = none := by
  rw [List.lookup_eq_none_iff]
  intro p hp
  simpa using fun e : k = p.1 => String.lt_irrefl k (e ▸ h p.1 (List.mem_map_of_mem hp))

/-- Looking up the key of a replaced value finds the replacement, and another key finds what was
there. -/
theorem lookup_upsertEntries (k j : String) (f : Option α → α) (l : List (String × α))
    (h : (l.map Prod.fst).Pairwise (· < ·)) :
    (upsertEntries k f l).lookup j = if j = k then some (f (l.lookup k)) else l.lookup j := by
  induction l with
  | nil =>
    by_cases hj : j = k
    · simp [upsertEntries, hj]
    · have hb : (j == k) = false := by simpa using hj
      simp [upsertEntries, List.lookup_cons, hj, hb]
  | cons e r ih =>
    obtain ⟨i, v⟩ := e
    simp only [List.map_cons, List.pairwise_cons] at h
    have absent (hk : k < i) : (((i, v) :: r).lookup k) = none := by
      apply lookup_eq_none_of_forall_lt
      intro j hj
      rcases List.mem_cons.1 hj with rfl | hj
      · exact hk
      · exact String.lt_trans hk (h.1 j hj)
    simp only [upsertEntries]
    split
    · next hk =>
      rw [absent hk, List.lookup_cons]
      by_cases hj : j = k
      · simp [hj]
      · have hb : (j == k) = false := by simpa using hj
        simp [hj, hb]
    · split
      · next hk he =>
        subst he
        rw [List.lookup_cons, List.lookup_cons, List.lookup_cons]
        by_cases hj : j = k
        · simp [hj]
        · have hb : (j == k) = false := by simpa using hj
          simp [hj, hb]
      · next hk hne =>
        rw [List.lookup_cons, ih h.2, List.lookup_cons, List.lookup_cons]
        by_cases hj : j = k
        · subst hj
          have : (j == i) = false := by simpa using hne
          simp [this]
        · simp [hj]

theorem find?_insert (m : SortedMap α) (k j : String) (v : α) :
    (m.insert k v).find? j = if j = k then some v else m.find? j := by
  simp only [find?, insert, upsert]
  exact lookup_upsertEntries k j _ m.entries m.ascending

theorem lookup_filter (p : String → α → Bool) (k : String) (l : List (String × α))
    (h : (l.map Prod.fst).Pairwise (· < ·)) :
    (l.filter fun e => p e.1 e.2).lookup k = (l.lookup k).filter (p k) := by
  induction l with
  | nil => rfl
  | cons e r ih =>
    obtain ⟨j, v⟩ := e
    simp only [List.map_cons, List.pairwise_cons] at h
    rw [List.filter_cons, List.lookup_cons]
    by_cases hk : k = j
    · subst hk
      have absent := lookup_eq_none_of_forall_lt h.1
      cases hp : p k v with
      | true => simp [hp, Option.filter]
      | false => simp [hp, ih h.2, absent, Option.filter]
    · have hb : (k == j) = false := by simpa using hk
      cases hp : p j v with
      | true => simp [hb, List.lookup_cons, ih h.2]
      | false => simp [hb, ih h.2]

theorem find?_filter (m : SortedMap α) (p : String → α → Bool) (k : String) :
    (m.filter p).find? k = (m.find? k).filter (p k) :=
  lookup_filter p k m.entries m.ascending

end SortedMap
end ClusterWatch

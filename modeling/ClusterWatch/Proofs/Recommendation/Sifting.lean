/-
# Filtering is one pass

`Recommendation.retain` goes through a map of lists: it replaces the list of every namespace while
a state is passed on, and then leaves out the namespaces that have nothing left.  On the flagged
workloads as one list this is a single pass from the left (`sift`), and what is left out at the end
had nothing to show.

So whatever is known of `sift`, by induction on a list, is known of `retain`.
-/
import ClusterWatch.Recommendation

namespace ClusterWatch.Recommendation

variable {σ : Type}

/-- The workloads of a list that are kept, and the state after the last decision. -/
def sift (keep : Decision σ) (s : σ) :
    List (String × FlaggedWorkload) → List (String × FlaggedWorkload) × σ
  | [] => ([], s)
  | x :: rest =>
      let (kept, s) := keep s x.1 x.2
      let (more, s) := sift keep s rest
      (if kept then x :: more else more, s)

theorem sift_append (keep : Decision σ) (s : σ) (l l' : List (String × FlaggedWorkload)) :
    sift keep s (l ++ l') =
      ((sift keep s l).1 ++ (sift keep (sift keep s l).2 l').1,
        (sift keep (sift keep s l).2 l').2) := by
  induction l generalizing s with
  | nil => rfl
  | cons x l ih =>
      simp only [List.cons_append, sift, ih]
      split <;> rfl

theorem sift_map (keep : Decision σ) (s : σ) (ns : String) (workloads : List FlaggedWorkload) :
    sift keep s (workloads.map fun w => (ns, w)) =
      ((retainIn keep s ns workloads).1.map (fun w => (ns, w)),
        (retainIn keep s ns workloads).2) := by
  induction workloads generalizing s with
  | nil => rfl
  | cons w workloads ih =>
      simp only [List.map_cons, sift, retainIn, ih]
      split <;> rfl

/-- The flagged workloads of a list of namespaces. -/
def flaggedIn (entries : List (String × List FlaggedWorkload)) : List (String × FlaggedWorkload) :=
  entries.flatMap fun (ns, workloads) => workloads.map fun w => (ns, w)

theorem sift_flaggedIn (keep : Decision σ) (s : σ)
    (entries : List (String × List FlaggedWorkload)) :
    sift keep s (flaggedIn entries) =
      (flaggedIn (SortedMap.mapAccumEntries (retainIn keep) s entries).1,
        (SortedMap.mapAccumEntries (retainIn keep) s entries).2) := by
  induction entries generalizing s with
  | nil => rfl
  | cons e entries ih =>
      obtain ⟨ns, workloads⟩ := e
      have first := sift_map keep s ns workloads
      have rest := ih (retainIn keep s ns workloads).2
      simp only [flaggedIn] at rest
      simp only [flaggedIn, List.flatMap_cons, sift_append, first, rest,
        SortedMap.mapAccumEntries]

theorem flaggedIn_filter (entries : List (String × List FlaggedWorkload)) :
    flaggedIn (entries.filter fun e => !e.2.isEmpty) = flaggedIn entries := by
  induction entries with
  | nil => rfl
  | cons e entries ih =>
      obtain ⟨ns, workloads⟩ := e
      cases workloads with
      | nil => exact ih
      | cons w workloads =>
          show _ ++ flaggedIn (entries.filter _) = _ ++ flaggedIn entries
          rw [ih]

/-- Filtering a recommendation is sifting what it flags. -/
theorem retain_eq_sift (keep : Decision σ) (s : σ) (r : Recommendation) :
    sift keep s r.flagged = ((r.retain keep s).1.flagged, (r.retain keep s).2) := by
  have whole := sift_flaggedIn keep s r.namespaces.entries
  rw [← flaggedIn_filter (SortedMap.mapAccumEntries (retainIn keep) s r.namespaces.entries).1]
    at whole
  exact whole

theorem flaggedCount_eq_length (r : Recommendation) : r.flaggedCount = r.flagged.length := by
  simp [flaggedCount, flagged, SortedMap.values, List.length_flatMap, Function.comp_def,
    List.length_flatten]

theorem hasFlagged_iff (r : Recommendation) : r.hasFlagged = true ↔ r.flagged ≠ [] := by
  simp [hasFlagged, flaggedCount_eq_length, List.length_pos_iff]

end ClusterWatch.Recommendation

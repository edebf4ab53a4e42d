/-
# Each workload is decided on once

A decision may change the state that it is passed, so it matters what it is asked, how often and in
which order.  `recording` makes a decision take notes: a `Visit` has the state that it was passed,
the workload with its namespace, the answer, and the state that it left.  Notes are part of the
state, so they are passed on like the rest of it, and they have no influence on the answers
(`retain_of_view`).

What the notes say is then a statement about filtering itself: they name all flagged workloads in
their order, and each state is the one that the visit before has left (`Threads`).
-/
import ClusterWatch.Proofs.Recommendation.Sifting
import ClusterWatch.Proofs.SortedMap

namespace ClusterWatch.Recommendation

variable {σ τ : Type}

/-! ## Part of a state -/

section View

variable {keep : Decision σ} {keep' : Decision τ} (view : τ → σ)
  (same : ∀ t ns w, keep (view t) ns w = ((keep' t ns w).1, view (keep' t ns w).2))
include same

theorem retainIn_of_view (t : τ) (ns : String) (workloads : List FlaggedWorkload) :
    retainIn keep (view t) ns workloads =
      ((retainIn keep' t ns workloads).1, view (retainIn keep' t ns workloads).2) := by
  induction workloads generalizing t with
  | nil => rfl
  | cons w workloads ih => simp only [retainIn, same, ih]

theorem retain_of_view (t : τ) (r : Recommendation) :
    r.retain keep (view t) = ((r.retain keep' t).1, view (r.retain keep' t).2) := by
  have entries := SortedMap.mapAccumEntries_of_view view (retainIn_of_view view same) t
    r.namespaces.entries
  simp only [retain, SortedMap.mapAccum, entries]

end View

/-! ## Notes -/

/-- A question to a decision and its answer, between the states before and after. -/
structure Visit (σ : Type) where
  before : σ
  ns : String
  workload : FlaggedWorkload
  kept : Bool
  after : σ

def Visit.subject (v : Visit σ) : String × FlaggedWorkload := (v.ns, v.workload)

/-- The workloads that visits have answered for with yes. -/
def keptOf (visits : List (Visit σ)) : List (String × FlaggedWorkload) :=
  (visits.filter Visit.kept).map Visit.subject

def recording (keep : Decision σ) : Decision (σ × List (Visit σ)) :=
  fun (s, visits) ns w =>
    let (kept, after) := keep s ns w
    (kept, after, visits ++ [⟨s, ns, w, kept, after⟩])

/-- Visits answered by a decision which pass a state on from the first to the last. -/
inductive Threads (keep : Decision σ) : σ → List (Visit σ) → σ → Prop
  | nil (s : σ) : Threads keep s [] s
  | cons {s after s' : σ} {ns : String} {w : FlaggedWorkload} {kept : Bool}
      {visits : List (Visit σ)} : keep s ns w = (kept, after) → Threads keep after visits s' →
      Threads keep s (⟨s, ns, w, kept, after⟩ :: visits) s'

theorem retain_recording (keep : Decision σ) (s : σ) (visits : List (Visit σ))
    (r : Recommendation) :
    r.retain keep s = ((r.retain (recording keep) (s, visits)).1,
      (r.retain (recording keep) (s, visits)).2.1) :=
  retain_of_view Prod.fst (fun _ _ _ => rfl) (s, visits) r

/-- A pass takes one note of each workload. -/
theorem exists_visits (keep : Decision σ) (s : σ) (notes : List (Visit σ))
    (l : List (String × FlaggedWorkload)) :
    ∃ visits s', sift (recording keep) (s, notes) l = (keptOf visits, s', notes ++ visits) ∧
      visits.map Visit.subject = l ∧ Threads keep s visits s' := by
  induction l generalizing s notes with
  | nil => exact ⟨[], s, by simp [sift, keptOf], rfl, .nil s⟩
  | cons x l ih =>
      obtain ⟨ns, w⟩ := x
      cases answer : keep s ns w with
      | mk kept after =>
          obtain ⟨visits, s', pass, all, threads⟩ := ih after (notes ++ [⟨s, ns, w, kept, after⟩])
          refine ⟨⟨s, ns, w, kept, after⟩ :: visits, s', ?_, ?_, .cons answer threads⟩
          · simp only [sift, recording, answer] at pass ⊢
            rw [pass, List.append_assoc]
            cases kept <;> rfl
          · rw [List.map_cons, all]
            rfl

/-! ## What is left of each namespace -/

def workloadsIn (ns : String) (l : List (String × FlaggedWorkload)) : List FlaggedWorkload :=
  (l.filter fun x => x.1 = ns).map Prod.snd

theorem workloadsIn_flaggedIn_of_forall_lt {ns : String}
    {entries : List (String × List FlaggedWorkload)}
    (above : ∀ other ∈ entries.map Prod.fst, ns < other) :
    workloadsIn ns (flaggedIn entries) = [] := by
  have other : ∀ x ∈ flaggedIn entries, x.1 ≠ ns := by
    intro x flagged same
    obtain ⟨e, mem, inside⟩ := List.mem_flatMap.mp flagged
    obtain ⟨w, -, rfl⟩ := List.mem_map.mp inside
    exact String.lt_irrefl e.1 (same ▸ above e.1 (List.mem_map_of_mem mem))
  rw [workloadsIn, List.filter_eq_nil_iff.mpr fun x mem => by simpa using other x mem]
  rfl

theorem lookup_eq_some_iff_workloadsIn {entries : List (String × List FlaggedWorkload)}
    (ascending : (entries.map Prod.fst).Pairwise (· < ·)) (full : ∀ e ∈ entries, e.2 ≠ [])
    (ns : String) (workloads : List FlaggedWorkload) :
    entries.lookup ns = some workloads ↔
      workloads ≠ [] ∧ workloadsIn ns (flaggedIn entries) = workloads := by
  induction entries with
  | nil =>
      refine ⟨fun found => absurd found.symm (Option.some_ne_none _), ?_⟩
      rintro ⟨hsome, rfl⟩
      exact absurd rfl hsome
  | cons e entries ih =>
      obtain ⟨k, ws⟩ := e
      simp only [List.map_cons, List.pairwise_cons] at ascending
      have first : ws ≠ [] := full (k, ws) List.mem_cons_self
      have split : workloadsIn ns (flaggedIn ((k, ws) :: entries)) =
          workloadsIn ns (ws.map fun w => (k, w)) ++ workloadsIn ns (flaggedIn entries) := by
        simp [workloadsIn, flaggedIn]
      rw [split, List.lookup_cons]
      by_cases same : ns = k
      · subst same
        rw [workloadsIn_flaggedIn_of_forall_lt ascending.1]
        have whole : workloadsIn ns (ws.map fun w => (ns, w)) = ws := by
          simp [workloadsIn, List.filter_map, Function.comp_def]
        rw [whole, List.append_nil, beq_self_eq_true]
        exact ⟨fun h => by cases h; exact ⟨first, rfl⟩, fun h => congrArg some h.2⟩
      · have hnone : workloadsIn ns (ws.map fun w => (k, w)) = [] := by
          simp [workloadsIn, List.filter_map, Function.comp_def, Ne.symm same]
        rw [hnone, List.nil_append, beq_false_of_ne same]
        exact ih ascending.2 fun e mem => full e (List.mem_cons_of_mem _ mem)

theorem ne_nil_of_mem_retain {keep : Decision σ} {s : σ} {r : Recommendation}
    {e : String × List FlaggedWorkload} (mem : e ∈ (r.retain keep s).1.namespaces.entries) :
    e.2 ≠ [] := by
  have full := (List.mem_filter.mp mem).2
  rintro empty
  simp [empty] at full

theorem pairwise_flagged (r : Recommendation) : r.flagged.Pairwise fun x y => x.1 ≤ y.1 := by
  rw [flagged, List.pairwise_flatMap]
  constructor
  · intro e mem
    rw [List.pairwise_map]
    exact List.pairwise_of_forall fun _ _ => String.le_refl e.1
  · have ascending := List.pairwise_map.mp r.namespaces.ascending
    refine ascending.imp ?_
    intro e e' below x inside y inside'
    obtain ⟨w, -, rfl⟩ := List.mem_map.mp inside
    obtain ⟨w', -, rfl⟩ := List.mem_map.mp inside'
    exact String.not_lt.mp (String.lt_asymm below)

/-- A decision is asked about every flagged workload once, in ascending order of the namespaces and
in the order of each list, and each time with the state that it has left the time before.  What it
answers with yes for is left: in its order, in its namespace, and no namespace without workloads
beside it.  The message stays. -/
theorem retain_visits_each_once (keep : Decision σ) (s : σ) (r : Recommendation) :
    let left := (r.retain keep s).1
    ∃ visits s', r.retain (recording keep) (s, []) = (left, s', visits) ∧
      (r.retain keep s).2 = s' ∧
      visits.map Visit.subject = r.flagged ∧ (r.flagged.Pairwise fun x y => x.1 ≤ y.1) ∧
      Threads keep s visits s' ∧
      left.flagged = keptOf visits ∧
      (∀ ns workloads, left.namespaces.find? ns = some workloads ↔
        workloads ≠ [] ∧ workloadsIn ns (keptOf visits) = workloads) ∧
      left.message = r.message ∧
      left.flaggedCount = visits.countP Visit.kept := by
  intro left
  obtain ⟨visits, s', pass, all, threads⟩ := exists_visits keep s [] r.flagged
  rw [retain_eq_sift (recording keep), List.nil_append, Prod.mk.injEq] at pass
  obtain ⟨hflagged, notes⟩ := pass
  have plain := retain_recording keep s [] r
  have left_eq : left = (r.retain (recording keep) (s, [])).1 := congrArg Prod.fst plain
  rw [← left_eq] at hflagged
  refine ⟨visits, s', ?_, ?_, all, pairwise_flagged r, threads, hflagged, ?_, rfl, ?_⟩
  · rw [left_eq, ← notes]
  · rw [plain, notes]
  · intro ns workloads
    rw [← hflagged]
    exact lookup_eq_some_iff_workloadsIn left.namespaces.ascending
      (fun _ mem => ne_nil_of_mem_retain mem) ns workloads
  · rw [flaggedCount_eq_length, hflagged, keptOf, List.length_map, List.countP_eq_length_filter]

end ClusterWatch.Recommendation

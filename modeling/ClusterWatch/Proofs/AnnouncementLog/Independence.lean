/-
# Which workloads are kept apart

The log looks at the record of one identity at a time, so what happens to an identity has no part in
the answers about another one (`find?_foldl_of_other`).  The identity of a workload is the text
`namespace/name`, and nothing keeps a slash out of either part.  Where the namespace of one workload
goes on with a piece of the other one's name, the two have one identity (`Overlaps`), and each
silences the other.  No other pairs do.
-/
import ClusterWatch.Proofs.AnnouncementLog

namespace ClusterWatch.AnnouncementLog

/-! ## Identities of workloads -/

/-- The second workload's namespace is the first one's and a piece of its name, and its name is the
rest. -/
def Overlaps (p q : String × String) : Prop :=
  ∃ piece, q.1 = p.1 ++ "/" ++ piece ∧ p.2 = piece ++ "/" ++ q.2

theorem toList_identity (ns name : String) :
    (identity ns name).toList = ns.toList ++ '/' :: name.toList := by
  simp [identity]

theorem Overlaps.identity_eq {p q : String × String} (h : Overlaps p q) :
    identity p.1 p.2 = identity q.1 q.2 := by
  obtain ⟨piece, first, second⟩ := h
  simp [identity, first, second, String.append_assoc]

theorem Overlaps.slash_mem {p q : String × String} (h : Overlaps p q) :
    '/' ∈ q.1.toList ∧ '/' ∈ p.2.toList := by
  obtain ⟨piece, first, second⟩ := h
  simp [first, second]

theorem overlaps_of_append {p q : String × String} {rest : List Char}
    (first : q.1.toList = p.1.toList ++ rest)
    (second : '/' :: p.2.toList = rest ++ '/' :: q.2.toList) : p = q ∨ Overlaps p q := by
  cases rest with
  | nil =>
      left
      rw [List.append_nil] at first
      exact Prod.ext (String.toList_inj.mp first.symm)
        (String.toList_inj.mp (List.cons.inj second).2)
  | cons slash piece =>
      obtain ⟨rfl, name⟩ := List.cons.inj second
      refine Or.inr ⟨String.ofList piece, String.toList_inj.mp ?_, String.toList_inj.mp ?_⟩
      · simp [first]
      · simp [name]

/-- Two workloads have one identity if they are the same or if one overlaps the other. -/
theorem identity_eq_iff (p q : String × String) :
    identity p.1 p.2 = identity q.1 q.2 ↔ p = q ∨ Overlaps p q ∨ Overlaps q p := by
  constructor
  · intro same
    have texts := congrArg String.toList same
    rw [toList_identity, toList_identity] at texts
    rcases List.append_eq_append_iff.mp texts with
      ⟨rest, first, second⟩ | ⟨rest, first, second⟩
    · exact (overlaps_of_append first second).imp id Or.inl
    · exact (overlaps_of_append first second).imp Eq.symm Or.inr
  · rintro (rfl | overlap | overlap)
    · rfl
    · exact overlap.identity_eq
    · exact overlap.identity_eq.symm

/-! ## Calls about other identities -/

/-- Whether a call announces or records an identity. -/
def Call.isAbout (id : String) : Call → Bool
  | .announce id' _ => id' = id
  | .record id' _ => id' = id
  | .evict _ => false

theorem announce_congr {log log' : AnnouncementLog} {id : String}
    (same : log.records.find? id = log'.records.find? id) (now : Instant) :
    (log.announce id now).1 = (log'.announce id now).1 := by
  rw [announce_fst, announce_fst, suppresses, suppresses, same]

theorem find?_step_of_isAbout {id other : String} {c : Call} (about : c.isAbout other = true)
    (differ : id ≠ other) (h : History) :
    (h.step c).log.records.find? id = h.log.records.find? id := by
  cases c with
  | announce id' now =>
      obtain rfl : id' = other := of_decide_eq_true about
      simp [History.step, find?_announce, differ]
  | record id' time =>
      obtain rfl : id' = other := of_decide_eq_true about
      simp [History.step, record, SortedMap.find?_insert, differ]
  | evict now => exact Bool.noConfusion about

/-- What a call does to the record of an identity depends on this record alone. -/
theorem find?_step_congr {id : String} {h h' : History}
    (same : h.log.records.find? id = h'.log.records.find? id) (c : Call) :
    (h.step c).log.records.find? id = (h'.step c).log.records.find? id := by
  cases c with
  | announce id' now =>
      simp only [History.step, find?_announce, same]
      by_cases asked : id = id'
      · subst asked
        rw [announce_congr same]
      · simp [asked]
  | record id' time => simp [History.step, record, SortedMap.find?_insert, same]
  | evict now =>
      show (h.log.records.filter _).find? id = (h'.log.records.filter _).find? id
      rw [SortedMap.find?_filter, SortedMap.find?_filter, same]

theorem find?_foldl_congr {id : String} {h h' : History}
    (same : h.log.records.find? id = h'.log.records.find? id) (calls : List Call) :
    (calls.foldl History.step h).log.records.find? id =
      (calls.foldl History.step h').log.records.find? id := by
  induction calls generalizing h h' with
  | nil => exact same
  | cons c calls ih => exact ih (find?_step_congr same c)

theorem find?_history_of_isAbout {id other : String} {c : Call} (about : c.isAbout other = true)
    (differ : id ≠ other) (calls more : List Call) :
    (history (calls ++ c :: more)).log.records.find? id =
      (history (calls ++ more)).log.records.find? id := by
  simp only [history, List.foldl_append, List.foldl_cons]
  exact find?_foldl_congr (find?_step_of_isAbout about differ _) more

/-! ## Workloads that do not silence each other -/

/-- No call about the second workload, anywhere among any calls at any times, has an influence on an
answer about the first one. -/
def Undisturbed (p q : String × String) : Prop :=
  ∀ calls more c now, c.isAbout (identity q.1 q.2) = true →
    ((history (calls ++ c :: more)).log.announce (identity p.1 p.2) now).1 =
      ((history (calls ++ more)).log.announce (identity p.1 p.2) now).1

theorem undisturbed_of_ne {p q : String × String} (differ : identity p.1 p.2 ≠ identity q.1 q.2) :
    Undisturbed p q := by
  intro calls more c now about
  exact announce_congr (find?_history_of_isAbout about differ calls more) now

theorem not_undisturbed_of_eq {p q : String × String}
    (same : identity p.1 p.2 = identity q.1 q.2) : ¬Undisturbed p q := by
  intro undisturbed
  have answers := undisturbed [] [] (.record (identity q.1 q.2) 0) 0 (decide_eq_true rfl)
  rw [announce_fst, announce_fst, same] at answers
  have silenced : (history [.record (identity q.1 q.2) 0]).log.suppresses (identity q.1 q.2) 0 =
      true := suppresses_record_self ..
  rw [List.nil_append, List.nil_append, silenced] at answers
  exact Bool.noConfusion answers

/-- A workload is undisturbed by another one if and only if neither overlaps the other.  So it is
where neither namespace, or neither name, has a slash in it. -/
theorem undisturbed_iff_not_overlaps {p q : String × String} (distinct : p ≠ q) :
    (Undisturbed p q ↔ ¬Overlaps p q ∧ ¬Overlaps q p) ∧
      ('/' ∉ p.1.toList ∧ '/' ∉ q.1.toList ∨ '/' ∉ p.2.toList ∧ '/' ∉ q.2.toList →
        Undisturbed p q) := by
  have apart : ¬Overlaps p q ∧ ¬Overlaps q p → Undisturbed p q := by
    rintro ⟨forth, back⟩
    refine undisturbed_of_ne fun same => ?_
    rcases (identity_eq_iff p q).mp same with equal | overlap | overlap
    · exact distinct equal
    · exact forth overlap
    · exact back overlap
  refine ⟨⟨fun undisturbed => ?_, apart⟩, fun plain => apart ?_⟩
  · have differ : identity p.1 p.2 ≠ identity q.1 q.2 :=
      fun same => not_undisturbed_of_eq same undisturbed
    exact ⟨(differ ·.identity_eq), (differ ·.identity_eq.symm)⟩
  · rcases plain with ⟨noneInP, noneInQ⟩ | ⟨noneInP, noneInQ⟩
    · exact ⟨(noneInQ ·.slash_mem.1), (noneInP ·.slash_mem.1)⟩
    · exact ⟨(noneInP ·.slash_mem.2), (noneInQ ·.slash_mem.2)⟩

/-- A namespace may begin with another one and a slash: what comes behind keeps the two apart. -/
theorem undisturbed_beside_longer_namespace :
    ("web", "api/main") ≠ ("web/api", "worker") ∧
      Undisturbed ("web", "api/main") ("web/api", "worker") := by
  have distinct : ("web", "api/main") ≠ ("web/api", "worker") := by decide
  have differ : identity "web" "api/main" ≠ identity "web/api" "worker" := by decide
  exact ⟨distinct, (undisturbed_iff_not_overlaps distinct).1.mpr
    ⟨(differ ·.identity_eq), (differ ·.identity_eq.symm)⟩⟩

/-- The slash of an identity may come from either part: one workload silences another one that it
has nothing to do with. -/
theorem slash_silences_other_workload :
    ("a/b", "c") ≠ ("a", "b/c") ∧
      ((history []).log.announce (identity "a" "b/c") 60000).1 = true ∧
      ((history [.announce (identity "a/b" "c") 0]).log.announce (identity "a" "b/c") 60000).1 =
        false := by
  decide

end ClusterWatch.AnnouncementLog

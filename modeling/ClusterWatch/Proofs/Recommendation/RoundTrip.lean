/-
# Recommendations as they are written and read

The service reads a model's answer by other rules than it writes one by: a label of a tier instead
of the tier, numbers that may be missing, below zero or fractions instead of amounts, lists that may
be missing.  What it writes itself it reads as what it wrote, as long as every amount has at most
the fifty-three bits of a significand.
-/
import ClusterWatch.Admin.Service
import ClusterWatch.Proofs.Json.PrintedGroups
import ClusterWatch.Proofs.Number.Exact
import ClusterWatch.Recommendation.Extract

namespace ClusterWatch

open Json

namespace FlaggedWorkload

/-- The amounts that a workload suggests, without those that are missing. -/
def amounts (w : FlaggedWorkload) : List Nat := w.cpu.toList ++ w.memory.toList ++ w.replicas.toList

theorem ofLabel_label (s : Severity) : Severity.ofLabel s.label = s := by cases s <;> decide

theorem readsBack_severity (s : Severity) :
    ReadsBack readSeverity (render Quoted.escape (.string s.label)) s := by
  have label := (readsBack_text s.label).optional.map fun label =>
    (label.map Severity.ofLabel).getD .info
  simp only [Option.map_some, Option.getD_some, ofLabel_label] at label
  exact label

theorem readsBack_suggestion {n : Nat} (held : n ≤ 2 ^ 53) :
    ReadsBack readSuggestion (render Quoted.escape (.nat n)) (some n) := by
  have number := (readsBack_nat (Nat.le_trans held (by decide))).optional.map suggestion
  obtain ⟨m, e, finite, rounded⟩ := Binary64.roundNat_ofNat held
  have same : suggestion (some (Binary64.ofNat n)) = some n := by
    rw [finite]
    simp [suggestion, Option.filter, Binary64.isFinite, Binary64.isBelowZero, rounded]
  rwa [same] at number

theorem fills_suggestion {set : Option Nat → FlaggedWorkload → FlaggedWorkload} {name : String}
    {more : List (Member FlaggedWorkload)} {record result : FlaggedWorkload}
    {fields : List (String × Option Json)} (amount : Option Nat) (held : ∀ n ∈ amount, n ≤ 2 ^ 53)
    (start : set none record = record) (rest : Fills more (set amount record) fields result) :
    Fills (.optional name readSuggestion set :: more) record
      ((name, amount.map Json.nat) :: fields) result := by
  cases amount with
  | none =>
      rw [start] at rest
      exact .absent rfl rest
  | some n => exact .present ((readsBack_suggestion (held n rfl)).map set) rest

theorem readsBack {w : FlaggedWorkload} (held : ∀ n ∈ w.amounts, n ≤ 2 ^ 53) :
    ReadsBack read (render Quoted.escape w.toJson) w := by
  have cpu : ∀ n ∈ w.cpu, n ≤ 2 ^ 53 :=
    fun n mem => held n (by simp [amounts, Option.mem_def.mp mem])
  have memory : ∀ n ∈ w.memory, n ≤ 2 ^ 53 :=
    fun n mem => held n (by simp [amounts, Option.mem_def.mp mem])
  have replicas : ∀ n ∈ w.replicas, n ≤ 2 ^ 53 :=
    fun n mem => held n (by simp [amounts, Option.mem_def.mp mem])
  refine readsBack_record ?_ (by decide) ?_
  · intro m mem
    simp only [members, List.mem_cons, List.not_mem_nil, or_false] at mem
    rcases mem with rfl | rfl | rfl | rfl | rfl <;> rfl
  · refine .member (readsBack_text w.name) ?_
    have severity := (readsBack_severity w.severity).map fun v (w : FlaggedWorkload) =>
      { w with severity := v }
    refine .present severity ?_
    refine fills_suggestion w.cpu cpu rfl ?_
    refine fills_suggestion w.memory memory rfl ?_
    refine fills_suggestion w.replicas replicas rfl ?_
    exact .nil

end FlaggedWorkload

namespace Recommendation

def workloads (r : Recommendation) : List FlaggedWorkload := r.namespaces.values.flatten

theorem readsBack_namespaces {namespaces : SortedMap (List FlaggedWorkload)}
    (held : ∀ w ∈ namespaces.values.flatten, ∀ n ∈ w.amounts, n ≤ 2 ^ 53) :
    ReadsBack readNamespaces
      (render Quoted.escape
        (.object (namespaces.mapValues (Json.list FlaggedWorkload.toJson)).entries))
      namespaces := by
  have each : ∀ e ∈ namespaces.entries,
      ReadsBack (readOptional (readList FlaggedWorkload.read))
        (render Quoted.escape (Json.list FlaggedWorkload.toJson e.2)) (some e.2) := by
    intro e mem
    have item : ∀ w ∈ e.2,
        ReadsBack FlaggedWorkload.read (render Quoted.escape w.toJson) (id w) := by
      intro w isItem
      refine FlaggedWorkload.readsBack (held w ?_)
      exact List.mem_flatten.mpr ⟨e.2, List.mem_map_of_mem mem, isItem⟩
    have items := readsBack_list item
    rw [List.map_id] at items
    exact items.optional
  have map := (readsBack_map each).optional.map fun found =>
    (found.getD .empty).mapValues fun workloads => workloads.getD []
  have same : (namespaces.mapValues some).mapValues (fun workloads => workloads.getD []) =
      namespaces := SortedMap.ext (by simp [SortedMap.mapValues, Function.comp_def])
  simp only [Option.getD_some, same] at map
  exact map

theorem readsBack {r : Recommendation} (held : ∀ w ∈ r.workloads, ∀ n ∈ w.amounts, n ≤ 2 ^ 53) :
    ReadsBack read (render Quoted.escape r.toJson) r := by
  refine readsBack_record ?_ (by decide) ?_
  · intro m mem
    simp only [members, List.mem_cons, List.not_mem_nil, or_false] at mem
    rcases mem with rfl | rfl <;> rfl
  · refine .member (readsBack_text r.message) ?_
    refine .member (readsBack_namespaces held) ?_
    exact .nil

/-- A client that asks for an analysis gets the text of its recommendation, and this text reads back
as that recommendation.  Its texts are any texts, its namespaces may be empty, and each amount is
missing or at most `2 ^ 53`. -/
theorem ofModelText_analysis (r : Recommendation)
    (held : ∀ w ∈ r.workloads, ∀ n ∈ w.amounts, n ≤ 2 ^ 53) :
    (Admin.Service.responseTo (.ok ⟨r, none⟩)).content = .json r.toJson ∧
      ofModelText r.toJson.toText = .ok r := by
  refine ⟨rfl, ?_⟩
  rw [ofModelText, ofText_toText (readsBack held)]

/-- Control characters, quotation marks and a letter outside ASCII in its texts, a namespace without
workloads, and amounts up to the largest one. -/
def sampled : Recommendation where
  message := "caf\u00e9 \x00\x1f\n\t\"\\/"
  namespaces := .ofList
    [("", []),
     ("\x01", [{ name := "\"api\"", severity := .critical, cpu := some 0, replicas := some (2 ^ 53) },
       { name := "", severity := .warning, memory := some 7 }])]

theorem ofModelText_sampled :
    (Admin.Service.responseTo (.ok ⟨sampled, none⟩)).content = .json sampled.toJson ∧
      ofModelText sampled.toJson.toText = .ok sampled :=
  ofModelText_analysis sampled (by decide)

end Recommendation
end ClusterWatch

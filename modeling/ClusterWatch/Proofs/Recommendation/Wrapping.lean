/-
# Answers in wrapping

A model may wrap its answer: in a greeting, in a code fence, in both.  Whatever stands around it,
the answer is what its text means on its own, as long as the text in front has no opening brace and
does not begin with an array, and the text behind has no closing brace.

The whole text is tried first, and this must not succeed with anything else.  Where only blanks
stand in front, the object is read as it is on its own, since its reader stops at the closing brace;
otherwise no record begins there.  After that the span of the braces is the object.
-/
import ClusterWatch.Recommendation.Extract
import ClusterWatch.Proofs.Json.StoppingReaders
import ClusterWatch.Proofs.Text.Clipping

namespace ClusterWatch

open Json

theorem FlaggedWorkload.stops_members : ∀ m ∈ FlaggedWorkload.members, Stops m.read := by
  have text : Stops readText := delimits_readText.stops
  have suggestion : Stops FlaggedWorkload.readSuggestion := stops_readReal.optional.map _
  have severity : Stops FlaggedWorkload.readSeverity := text.optional.map _
  simp only [FlaggedWorkload.members, List.forall_mem_cons]
  exact ⟨Member.stops_needed text _ _, Member.stops_optional severity "severity" _,
    Member.stops_optional suggestion _ _, Member.stops_optional suggestion _ _,
    Member.stops_optional suggestion _ _, nofun⟩

namespace Recommendation

theorem stops_members : ∀ m ∈ members, Stops m.read := by
  have text : Stops readText := delimits_readText.stops
  have workload : Stops FlaggedWorkload.read :=
    (delimits_readRecord FlaggedWorkload.stops_members _).stops
  have namespaces : Stops readNamespaces :=
    workload.list.stops.optional.dictionary.stops.optional.map _
  simp only [members, List.forall_mem_cons]
  exact ⟨Member.stops_optional text _ _, Member.stops_optional namespaces _ _, nofun⟩

theorem delimits_read : Delimits read := delimits_readRecord stops_members {}

variable {p t s : List Char} {r : Recommendation}

/-- The span of the braces is the object without what stands around it. -/
theorem braceSpan?_wrapped (before : '{' ∉ p) (after : '}' ∉ s) (opens : t.head? = some '{')
    (closes : t.getLast? = some '}') : braceSpan? (p ++ t ++ s) = some t := by
  rw [List.getLast?_eq_head?_reverse] at closes
  obtain ⟨inner, rfl⟩ := List.head?_eq_some_iff.mp opens
  obtain ⟨inner', reversed⟩ := List.head?_eq_some_iff.mp closes
  have front : (p ++ ('{' :: inner ++ s)).dropWhile (· != '{') = '{' :: inner ++ s :=
    Text.dropWhile_ne_append before _
  have back : ('{' :: inner ++ s).reverse.dropWhile (· != '}') = '}' :: inner' := by
    rw [List.reverse_append, Text.dropWhile_ne_append (by simpa using after), reversed]
    rfl
  rw [braceSpan?, List.append_assoc, front, back]
  dsimp only
  rw [← reversed, List.reverse_reverse]

/-- Where only blanks stand in front of an object, what stands behind does not change its
meaning. -/
theorem readAll_of_blank {v : Recommendation} (blank : skipSpace p = [])
    (accepted : readAll read t = .ok r) (direct : readAll read (p ++ t ++ s) = .ok v) : v = r := by
  obtain ⟨⟨w, rest⟩, answer, accepted⟩ := exists_of_bind_eq_ok accepted
  obtain ⟨⟨w', rest'⟩, answer', direct⟩ := exists_of_bind_eq_ok direct
  have same : read (p ++ (t ++ s)) = read (t ++ s) := by
    rw [skipSpace] at blank
    simp only [read, readRecord, skipSpace, List.dropWhile_append, blank, List.isEmpty_nil, if_true]
  rw [List.append_assoc, same, delimits_read.append answer s] at answer'
  cases answer'
  dsimp only at accepted direct
  split at accepted
  · cases accepted
    split at direct
    · cases direct
      rfl
    · cases direct
  · cases accepted

/-- Where another text stands in front, no record begins there. -/
theorem readAll_of_text {v : Recommendation} {u tail : List Char} {c : Char}
    (front : skipSpace p = c :: tail) (object : c ≠ '{') (array : c ≠ '[') :
    readAll read (p ++ u) ≠ .ok v := by
  intro direct
  obtain ⟨answer, direct, -⟩ := exists_of_bind_eq_ok direct
  simp only [read, readRecord, skipSpace_append front u] at direct
  split at direct
  · rename_i same
    exact object (List.cons.inj same).1
  · rename_i same
    exact array (List.cons.inj same).1
  · cases direct

/-- Text around an object does not change the answer: if the object is accepted on its own, the
whole text means the same. -/
theorem ofModelText_wrapped (p t s : String) (r : Recommendation) (before : '{' ∉ p.toList)
    (array : (skipSpace p.toList).head? ≠ some '[') (after : '}' ∉ s.toList)
    (opens : t.toList.head? = some '{') (closes : t.toList.getLast? = some '}')
    (accepted : Json.ofText read t = .ok r) : ofModelText (p ++ t ++ s) = .ok r := by
  have parts : (p ++ t ++ s).toList = p.toList ++ t.toList ++ s.toList := by simp
  have direct : ∀ v, Json.ofText read (p ++ t ++ s) = .ok v → v = r := by
    intro v direct
    rw [Json.ofText, parts] at direct
    cases front : skipSpace p.toList with
    | nil => exact readAll_of_blank front accepted direct
    | cons c tail =>
        have mem : c ∈ p.toList := by
          have mem : c ∈ skipSpace p.toList := by rw [front]; exact List.mem_cons_self
          exact (List.dropWhile_sublist _).mem mem
        rw [front] at array
        rw [List.append_assoc] at direct
        exact (readAll_of_text front (fun same => before (same ▸ mem))
          (fun same => array (congrArg some same)) direct).elim
  unfold ofModelText
  split
  · rename_i answer
    rw [direct _ answer]
  · rw [parts, braceSpan?_wrapped before after opens closes]
    dsimp only
    rw [Json.ofText] at accepted
    rw [accepted]

theorem ofModelText_fenced :
    ofModelText ("Voilà, the plan:\n```json\n" ++
        "\x7b\"namespaces\": \x7b\"prod\": [\x7b\"name\": \"api\"\x7d]\x7d\x7d" ++
        "\n```\nThanks ✓") =
      .ok { namespaces := .ofList [("prod", [{ name := "api" }])] } :=
  ofModelText_wrapped _ _ _ _ (by decide) (by decide) (by decide) (by decide) (by decide) rfl

end Recommendation
end ClusterWatch

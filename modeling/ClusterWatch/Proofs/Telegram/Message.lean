/-
# A message fits and keeps whole lines

The chat service takes messages up to a length.  Names may be of any length, so a message about
workloads may have to be cut; but its first lines are the program's own and short, so there always
is a line break to cut at, and the header always stays.
-/
import ClusterWatch.Proofs.Report
import ClusterWatch.Proofs.Text.Clipping
import ClusterWatch.Telegram

namespace ClusterWatch.Telegram

open Text

theorem break_mem_take (r : Recommendation) (scannedAt : Instant) :
    '\n' ∈ (Report.text r scannedAt).toList.take (longestText - 13) := by
  obtain ⟨rest, same⟩ := Report.exists_title r scannedAt
  have title : "*Kubernetes resource report*".toList.length = 28 := by decide
  rw [same, List.take_append, title]
  exact List.mem_append_right _ List.mem_cons_self

theorem exists_lines_of_isKept {r : Recommendation} {scannedAt : Instant} {kept : String}
    (is : IsKept longestText (Report.text r scannedAt) kept) :
    ∃ n, kept.toList = dropBlanksEnd (leadingLines n (Report.text r scannedAt).toList) := by
  obtain ⟨front, back, split, absent⟩ := exists_last_break (break_mem_take r scannedAt)
  have whole := List.take_append_drop (longestText - 13) (Report.text r scannedAt).toList
  rw [split, List.append_assoc, List.cons_append] at whole
  obtain ⟨n, lines⟩ := exists_leadingLines front
    (back ++ (Report.text r scannedAt).toList.drop (longestText - 13))
  rw [whole] at lines
  exact ⟨n, by rw [is.lines split absent, ← lines]⟩

theorem isPrefix_header_of_isKept {r : Recommendation} {scannedAt : Instant} {kept : String}
    (fits : r.flaggedCount ≤ Decimal.maxU64) (valid : scannedAt.date.isValid)
    (is : IsKept longestText (Report.text r scannedAt) kept) :
    (Report.header r.flaggedCount scannedAt).toList <+: (kept ++ clipNote).toList := by
  obtain ⟨blocks, message⟩ := Report.text_eq r scannedAt
  obtain ⟨start, header, short⟩ := Report.exists_front_of_header fits valid
  obtain ⟨front, back, split, absent⟩ := exists_last_break (break_mem_take r scannedAt)
  have hkept := is.lines split absent
  have room : longestText - 13 = start.length + (longestText - 16 - start.length) + 3 := by
    simp only [longestText]
    omega
  rw [message, String.toList_append, header, room, Nat.add_assoc, List.append_assoc,
    List.take_length_add_append] at split
  obtain ⟨tail, rfl, before⟩ := exists_of_last_break (start ++ ['C'])
    (by rw [List.append_assoc]; exact split) absent
  obtain ⟨more, breaks⟩ := isPrefix_breaks before
  refine ⟨more, ?_⟩
  rw [List.append_assoc, List.singleton_append, dropBlanksEnd_append_cons (by decide)] at hkept
  rw [String.toList_append, hkept, header]
  simp [← breaks]

/-- The text of a message is cut to the length that the chat service takes if need be.  It is the
report or complete leading lines of it, without the blanks at their end, in front of the note; and
it begins with the header, as long as the count has 64 bits and the time a date that is kept. -/
theorem text_keeps_lines :
    (∀ limit s, s.length ≤ limit ∧ clip limit s = s ∨
      limit < s.length ∧ ∃ kept, clip limit s = kept ++ "\n\n[truncated]" ∧ IsKept limit s kept) ∧
    ∀ (t : Telegram) (recipient : Int) (r : Recommendation) (scannedAt : Instant),
      ∃ text, (t.payload recipient (Report.text r scannedAt)).field? "text" = some (.string text) ∧
        text.length ≤ 4096 ∧
        ((Report.text r scannedAt).length ≤ 4096 ∧ text = Report.text r scannedAt ∨
          4096 < (Report.text r scannedAt).length ∧ ∃ n, text.toList =
            dropBlanksEnd (leadingLines n (Report.text r scannedAt).toList) ++
              "\n\n[truncated]".toList) ∧
        (r.flaggedCount ≤ Decimal.maxU64 → scannedAt.date.isValid →
          (Report.header r.flaggedCount scannedAt).toList <+: text.toList) := by
  refine ⟨clip_cases, ?_⟩
  intro t recipient r scannedAt
  refine ⟨messageText (Report.text r scannedAt), rfl, length_clip_le _ _, ?_⟩
  rcases clip_cases longestText (Report.text r scannedAt) with
    ⟨short, same⟩ | ⟨long, kept, same, is⟩
  · rw [messageText, same]
    refine ⟨Or.inl ⟨short, rfl⟩, fun _ _ => ?_⟩
    obtain ⟨blocks, message⟩ := Report.text_eq r scannedAt
    rw [message, String.toList_append]
    exact List.prefix_append ..
  · rw [messageText, same]
    obtain ⟨n, lines⟩ := exists_lines_of_isKept is
    exact ⟨Or.inr ⟨long, n, by rw [String.toList_append, lines, clipNote]⟩,
      fun fits valid => isPrefix_header_of_isKept fits valid is⟩

/-- A namespace whose name alone is longer than a message. -/
def endlessName : Recommendation :=
  { namespaces := .ofList [(String.ofList (List.replicate 5000 'n'), [{ name := "api" }])] }

theorem header_of_endlessName :
    ∃ text : String, ((Telegram.new "" "").payload 1 (Report.text endlessName 0)).field? "text" =
        some (.string text) ∧
      text.length ≤ 4096 ∧ (Report.header 1 0).toList <+: text.toList := by
  obtain ⟨text, field, short, -, header⟩ := text_keeps_lines.2 (Telegram.new "" "") 1 endlessName 0
  exact ⟨text, field, short, header (by decide) (by decide)⟩

end ClusterWatch.Telegram

/-
# What trimming leaves

Trimming takes the blanks at both ends away and nothing else: a text that neither begins nor ends
with a blank comes back whole out of any blanks around it.  Every text is such a text with blanks
around it (`trims_trimList`), so what is left of a text is told by `Trims`, without a word on how
the blanks are found.
-/
import ClusterWatch.Text.Blank

namespace ClusterWatch.Text

variable {front core back cs : List Char}

theorem dropBlanks_append (blanks : front.all isBlank = true) (cs : List Char) :
    dropBlanks (front ++ cs) = dropBlanks cs :=
  List.dropWhile_append_of_pos (List.all_eq_true.mp blanks)

theorem dropBlanks_eq_self (begins : ∀ c ∈ cs.head?, isBlank c = false) : dropBlanks cs = cs := by
  cases cs with
  | nil => rfl
  | cons c r => simp [dropBlanks, begins c rfl]

theorem dropBlanksEnd_append (blanks : back.all isBlank = true)
    (ends : ∀ c ∈ cs.getLast?, isBlank c = false) : dropBlanksEnd (cs ++ back) = cs := by
  have reversed : back.reverse.all isBlank = true := by rw [List.all_reverse]; exact blanks
  have kept : dropBlanks cs.reverse = cs.reverse :=
    dropBlanks_eq_self (by rw [List.head?_reverse]; exact ends)
  rw [dropBlanksEnd, List.reverse_append, dropBlanks_append reversed, kept, List.reverse_reverse]

theorem isPrefix_dropBlanksEnd (cs : List Char) : dropBlanksEnd cs <+: cs := by
  have suffix := List.dropWhile_suffix isBlank (l := cs.reverse)
  rw [← List.reverse_prefix, List.reverse_reverse] at suffix
  exact suffix

theorem not_isBlank_getLast?_dropBlanksEnd {cs : List Char} {c : Char}
    (last : (dropBlanksEnd cs).getLast? = some c) : isBlank c = false := by
  rw [dropBlanksEnd, List.getLast?_reverse] at last
  obtain ⟨r, front⟩ := List.head?_eq_some_iff.mp last
  exact dropBlanks_head _ _ _ front

theorem exists_blanks_dropBlanksEnd (cs : List Char) :
    ∃ back, back.all isBlank = true ∧ cs = dropBlanksEnd cs ++ back := by
  obtain ⟨front, blanks, split⟩ := exists_blanks_dropBlanks cs.reverse
  refine ⟨front.reverse, by rw [List.all_reverse]; exact blanks, ?_⟩
  rw [dropBlanksEnd, ← List.reverse_append, ← split, List.reverse_reverse]

theorem trimList_surrounded (before : front.all isBlank = true) (after : back.all isBlank = true)
    (begins : ∀ c ∈ core.head?, isBlank c = false)
    (ends : ∀ c ∈ core.getLast?, isBlank c = false) :
    trimList (front ++ core ++ back) = core := by
  rw [trimList, List.append_assoc, dropBlanks_append before]
  cases core with
  | nil =>
      have hnone : dropBlanks back = [] := by
        have all := dropBlanks_append after []
        rwa [List.append_nil] at all
      rw [List.nil_append, hnone]
      rfl
  | cons c r =>
      have whole : dropBlanks (c :: r ++ back) = c :: r ++ back := dropBlanks_eq_self begins
      rw [whole, dropBlanksEnd_append after ends]

/-- A text, and what is left of it without the blanks around it. -/
inductive Trims : List Char → List Char → Prop
  | intro {front core back : List Char} (before : front.all isBlank = true)
      (after : back.all isBlank = true) (begins : ∀ c ∈ core.head?, isBlank c = false)
      (ends : ∀ c ∈ core.getLast?, isBlank c = false) : Trims (front ++ core ++ back) core

theorem trims_trimList (cs : List Char) : Trims cs (trimList cs) := by
  obtain ⟨front, before, split⟩ := exists_blanks_dropBlanks cs
  obtain ⟨back, after, split'⟩ := exists_blanks_dropBlanksEnd (dropBlanks cs)
  have begins : ∀ c ∈ (trimList cs).head?, isBlank c = false := by
    intro c head
    obtain ⟨more, start⟩ := isPrefix_dropBlanksEnd (dropBlanks cs)
    obtain ⟨r, head⟩ := List.head?_eq_some_iff.mp head
    rw [trimList] at head
    rw [head] at start
    exact dropBlanks_head cs c _ start.symm
  have whole : cs = front ++ trimList cs ++ back := by
    rw [trimList, List.append_assoc, ← split', ← split]
  have trims := Trims.intro before after begins fun c => not_isBlank_getLast?_dropBlanksEnd
  rwa [← whole] at trims

/-- What is left of a text is what trimming leaves. -/
theorem trimList_eq_iff : trimList cs = core ↔ Trims cs core := by
  constructor
  · rintro rfl
    exact trims_trimList cs
  · rintro ⟨before, after, begins, ends⟩
    exact trimList_surrounded before after begins ends

theorem trims_nil_iff : Trims cs [] ↔ cs.all isBlank = true := by
  constructor
  · rintro ⟨before, after, -, -⟩
    rw [List.append_nil, List.all_append, before, after]
    rfl
  · intro blanks
    have trims : Trims (cs ++ [] ++ []) [] := .intro blanks rfl nofun nofun
    rwa [List.append_nil, List.append_nil] at trims

end ClusterWatch.Text

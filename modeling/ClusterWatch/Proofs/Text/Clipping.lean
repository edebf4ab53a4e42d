/-
# What a cut leaves of a text

A text that is too long keeps a part in front (`IsKept`): it ends at the last line break among the
characters for which there is room beside the note, with the blanks before that break removed, so
that the lines in front of it are kept whole.
-/
import ClusterWatch.Proofs.Text.Trimming
import ClusterWatch.Text.Clip

namespace ClusterWatch.Text

/-- The first lines of a text, with the line breaks between them. -/
def leadingLines (n : Nat) (cs : List Char) : List Char :=
  ['\n'].intercalate ((cs.splitOn '\n').take n)

theorem exists_leadingLines (front back : List Char) :
    ∃ n, front = leadingLines n (front ++ '\n' :: back) := by
  refine ⟨(front.splitOn '\n').length, ?_⟩
  rw [leadingLines, List.splitOn_append_cons_self, List.take_left, List.intercalate_splitOn]

/-! ## Blanks at the end -/

theorem dropBlanksEnd_append_cons {front : List Char} {c : Char} (solid : isBlank c = false)
    (back : List Char) :
    dropBlanksEnd (front ++ c :: back) = front ++ c :: dropBlanksEnd back := by
  have reversed : (front ++ c :: back).reverse = back.reverse ++ c :: front.reverse := by simp
  rw [dropBlanksEnd, reversed, dropBlanks, List.dropWhile_append, dropBlanksEnd, dropBlanks]
  split
  · rename_i blank
    rw [List.isEmpty_iff.mp blank, List.dropWhile_cons_of_neg (by simp [solid])]
    simp
  · simp

/-! ## The last line break -/

theorem exists_last_break {cs : List Char} (there : '\n' ∈ cs) :
    ∃ front back, cs = front ++ '\n' :: back ∧ '\n' ∉ back := by
  obtain ⟨front, back, reversed, absent⟩ :=
    List.eq_append_cons_of_mem (List.mem_reverse.mpr there)
  refine ⟨back.reverse, front.reverse, ?_, by simpa using absent⟩
  rw [← List.reverse_reverse cs, reversed]
  simp

theorem dropWhile_ne_append {a : Char} {front : List Char} (absent : a ∉ front)
    (rest : List Char) : (front ++ rest).dropWhile (· != a) = rest.dropWhile (· != a) :=
  List.dropWhile_append_of_pos fun _ mem => bne_iff_ne.mpr fun same => absent (same ▸ mem)

theorem beforeLastBreak?_append (front : List Char) {back : List Char} (absent : '\n' ∉ back) :
    beforeLastBreak? (front ++ '\n' :: back) = some front := by
  have reversed : (front ++ '\n' :: back).reverse = back.reverse ++ '\n' :: front.reverse := by
    simp
  rw [beforeLastBreak?, reversed, dropWhile_ne_append (by simpa using absent)]
  exact congrArg some (List.reverse_reverse front)

theorem beforeLastBreak?_eq_none {cs : List Char} (absent : '\n' ∉ cs) :
    beforeLastBreak? cs = none := by
  rw [beforeLastBreak?, ← List.append_nil cs.reverse, dropWhile_ne_append (by simpa using absent)]
  rfl

theorem exists_of_last_break (start : List Char) {front back rest : List Char}
    (split : start ++ '\n' :: '\n' :: rest = front ++ '\n' :: back) (absent : '\n' ∉ back) :
    ∃ tail, front = start ++ tail ∧ tail <+: '\n' :: '\n' :: rest := by
  rcases List.append_eq_append_iff.mp split with ⟨tail, rfl, same⟩ | ⟨tail, rfl, same⟩
  · exact ⟨tail, rfl, _, same.symm⟩
  · cases tail with
    | nil => exact ⟨[], by simp, List.nil_prefix⟩
    | cons c tail =>
        -- Otherwise the two line breaks stand behind the last one.
        have behind := (List.cons.inj same).2
        rw [behind] at absent
        simp at absent

theorem isPrefix_breaks {tail rest : List Char} (before : tail <+: '\n' :: '\n' :: rest) :
    ['\n', '\n'] <+: dropBlanksEnd tail ++ clipNote.toList := by
  have note : ['\n', '\n'] <+: clipNote.toList := ⟨"[truncated]".toList, by decide⟩
  have start := (isPrefix_dropBlanksEnd tail).trans before
  have solid : ∀ c, (dropBlanksEnd tail).getLast? = some c → isBlank c = false :=
    fun _ => not_isBlank_getLast?_dropBlanksEnd
  generalize dropBlanksEnd tail = kept at start solid
  match kept with
  | [] => exact note
  | [c] =>
      obtain ⟨rfl, -⟩ := List.cons_prefix_cons.mp start
      exact absurd (solid '\n' rfl) (by decide)
  | c :: d :: kept =>
      obtain ⟨rfl, later⟩ := List.cons_prefix_cons.mp start
      obtain ⟨rfl, -⟩ := List.cons_prefix_cons.mp later
      exact ⟨kept ++ clipNote.toList, rfl⟩

/-! ## The part that is kept -/

/-- A part of a text that stands in front of the note when the text is cut. -/
structure IsKept (limit : Nat) (s kept : String) : Prop where
  front : kept.toList <+: s.toList
  room : kept.length + 13 ≤ max limit 13
  lines {front back : List Char} : s.toList.take (limit - 13) = front ++ '\n' :: back →
    '\n' ∉ back → kept.toList = dropBlanksEnd front
  unbroken : '\n' ∉ s.toList.take (limit - 13) → kept.toList = s.toList.take (limit - 13)

theorem length_clipNote : clipNote.length = 13 := by decide

theorem clipped_eq (limit : Nat) (cs : List Char) :
    clipped limit cs =
      match beforeLastBreak? (cs.take (limit - 13)) with
      | some lines => dropBlanksEnd lines
      | none => cs.take (limit - 13) := by
  rw [← length_clipNote]
  rfl

theorem clipped_of_break {limit : Nat} {cs front back : List Char}
    (split : cs.take (limit - 13) = front ++ '\n' :: back) (absent : '\n' ∉ back) :
    clipped limit cs = dropBlanksEnd front := by
  rw [clipped_eq, split, beforeLastBreak?_append front absent]

theorem clipped_of_unbroken {limit : Nat} {cs : List Char}
    (absent : '\n' ∉ cs.take (limit - 13)) : clipped limit cs = cs.take (limit - 13) := by
  rw [clipped_eq, beforeLastBreak?_eq_none absent]

theorem isPrefix_clipped (limit : Nat) (cs : List Char) :
    clipped limit cs <+: cs.take (limit - 13) := by
  by_cases there : '\n' ∈ cs.take (limit - 13)
  · obtain ⟨front, back, split, absent⟩ := exists_last_break there
    rw [clipped_of_break split absent, split]
    exact (isPrefix_dropBlanksEnd front).trans (List.prefix_append _ _)
  · exact ⟨[], by rw [clipped_of_unbroken there, List.append_nil]⟩

theorem isKept_clipped (limit : Nat) (s : String) :
    IsKept limit s (String.ofList (clipped limit s.toList)) where
  front := by
    rw [String.toList_ofList]
    exact (isPrefix_clipped limit s.toList).trans (List.take_prefix _ _)
  room := by
    have short := (isPrefix_clipped limit s.toList).length_le
    rw [List.length_take] at short
    rw [String.length_ofList]
    omega
  lines := fun split absent => by rw [String.toList_ofList, clipped_of_break split absent]
  unbroken := fun absent => by rw [String.toList_ofList, clipped_of_unbroken absent]

/-- A text is kept as it is, or what is kept of it stands in front of the note. -/
theorem clip_cases (limit : Nat) (s : String) :
    s.length ≤ limit ∧ clip limit s = s ∨
      limit < s.length ∧ ∃ kept, clip limit s = kept ++ clipNote ∧ IsKept limit s kept := by
  by_cases short : s.length ≤ limit
  · exact Or.inl ⟨short, if_pos short⟩
  · exact Or.inr ⟨Nat.lt_of_not_le short, _, if_neg short, isKept_clipped limit s⟩

theorem length_clip_le (limit : Nat) (s : String) : (clip limit s).length ≤ max limit 13 := by
  rcases clip_cases limit s with ⟨short, same⟩ | ⟨-, kept, same, is⟩
  · rw [same]
    exact Nat.le_trans short (Nat.le_max_left ..)
  · rw [same, String.length_append, length_clipNote]
    exact is.room

end ClusterWatch.Text

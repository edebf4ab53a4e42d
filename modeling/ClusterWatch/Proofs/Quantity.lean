/-
# Literals and suffixes of quantities

A quantity is cut where its suffix begins, at the first letter that is neither `e` nor `E`.  No
character of a literal is such a letter, so the cut falls behind the literal (`split_append`), and
what is left of a suffix after the same cut decides the rest.

Every suffix of the table begins with a letter that is not spared, but one: `Ei` loses its `E` to
the literal.  What remains of it, `i`, is in no table, so there is no quantity with this suffix that
can be read.
-/
import ClusterWatch.Proofs.Number.Literal
import ClusterWatch.Proofs.Text.Trimming
import ClusterWatch.Quantity

namespace ClusterWatch

theorem Text.le_toNat_of_isAsciiLetter {c : Char} (h : isAsciiLetter c = true) :
    65 ≤ c.toNat := by
  simp [isAsciiLetter, Char.le_def, UInt32.le_iff_toNat_le] at h
  omega

namespace Quantity

theorem not_startsSuffix_of_isLiteralChar {c : Char} (h : Binary64.isLiteralChar c = true) :
    startsSuffix c = false := by
  rcases Binary64.isLiteralChar_iff.mp h with digit | rfl | rfl | rfl | rfl | rfl
  · have range := Text.toNat_of_isDigit digit
    have other : Text.isAsciiLetter c = false := by
      refine Bool.eq_false_iff.mpr ?_
      intro letter
      have above := Text.le_toNat_of_isAsciiLetter letter
      omega
    simp [startsSuffix, other]
  all_goals decide

theorem split_append {number : List Char} (plain : ∀ c ∈ number, startsSuffix c = false)
    (rest : List Char) :
    split (number ++ rest) = (number ++ (split rest).1, (split rest).2) := by
  have spared : ∀ c ∈ number, (!startsSuffix c) = true := by
    intro c inside
    rw [plain c inside]
    rfl
  rw [split, List.takeWhile_append_of_pos spared, List.dropWhile_append_of_pos spared]
  rfl

theorem split_suffix : ∀ entry ∈ multipliers, split entry.1.toList =
    if entry.1 = "Ei" then (['E'], "i") else ([], entry.1) := by
  decide

theorem lookup_multipliers :
    ∀ entry ∈ multipliers, multipliers.lookup entry.1 = some entry.2 := by
  decide

section Read

variable {front back number : List Char} {suffix : String} {v m : Binary64}

/-- A literal with a suffix of the table behind it, and blanks around both. -/
def surrounded (front number : List Char) (suffix : String) (back : List Char) : String :=
  String.ofList (front ++ (number ++ suffix.toList) ++ back)

theorem trim_surrounded (before : front.all Text.isBlank = true)
    (after : back.all Text.isBlank = true) (literal : Binary64.read? number = some v)
    (known : (suffix, m) ∈ multipliers) :
    Text.trim (surrounded front number suffix back) = String.ofList (number ++ suffix.toList) := by
  have letters : ∀ entry ∈ multipliers, entry.1.toList.any Text.isBlank = false := by decide
  have solid : ∀ c ∈ number ++ suffix.toList, Text.isBlank c = false := by
    intro c inside
    rcases List.mem_append.mp inside with digit | letter
    · exact Binary64.isBlank_of_isLiteralChar (Binary64.isLiteralChar_of_read? literal digit)
    · simpa using List.any_eq_false.mp (letters _ known) c letter
  rw [Text.trim, surrounded, String.toList_ofList,
    Text.trimList_surrounded before after (fun c head => solid c (List.mem_of_mem_head? head))
      fun c last => solid c (List.mem_of_mem_getLast? last)]

/-- Where the cut falls in a literal with a suffix of the table behind it. -/
theorem split_literal (literal : Binary64.read? number = some v)
    (known : (suffix, m) ∈ multipliers) :
    split (number ++ suffix.toList) =
      if suffix = "Ei" then (number ++ ['E'], "i") else (number, suffix) := by
  have plain : ∀ c ∈ number, startsSuffix c = false := by
    intro c inside
    exact not_startsSuffix_of_isLiteralChar (Binary64.isLiteralChar_of_read? literal inside)
  rw [split_append plain, split_suffix _ known]
  dsimp only
  split
  · rfl
  · rw [List.append_nil]

/-- The suffix `Ei` is cut in two, and what is left of it is unknown. -/
theorem read_exbi (before : front.all Text.isBlank = true) (after : back.all Text.isBlank = true)
    (literal : Binary64.read? number = some v) (known : ("Ei", m) ∈ multipliers) :
    read (surrounded front number "Ei" back) =
      .error (.unknownSuffix "i" (String.ofList (number ++ "Ei".toList))) := by
  have unknown : multipliers.lookup "i" = none := by decide
  simp only [read, trim_surrounded before after literal known, String.toList_ofList,
    split_literal literal known, if_true, unknown]

theorem read_scaled (before : front.all Text.isBlank = true) (after : back.all Text.isBlank = true)
    (literal : Binary64.read? number = some v) (finite : v.isFinite = true)
    (least : v.isBelowZero = false) (known : (suffix, m) ∈ multipliers) (spared : suffix ≠ "Ei") :
    read (surrounded front number suffix back) = .ok (v * m) := by
  simp only [read, trim_surrounded before after literal known, String.toList_ofList,
    split_literal literal known, if_neg spared, lookup_multipliers _ known, literal, finite, least,
    Bool.not_false, Bool.and_true, if_true]

/-- A literal of a finite number that is not below zero, with a suffix of the table behind it and
blanks around both, is read as the number scaled by the suffix, unless the suffix is `Ei`, which is
refused as an unknown suffix. -/
theorem literal_with_suffix_is_scaled (before : front.all Text.isBlank = true)
    (after : back.all Text.isBlank = true) (literal : Binary64.read? number = some v)
    (finite : v.isFinite = true) (least : v.isBelowZero = false)
    (known : (suffix, m) ∈ multipliers) :
    read (surrounded front number suffix back) =
      if suffix = "Ei" then .error (.unknownSuffix "i" (String.ofList (number ++ suffix.toList)))
      else .ok (v * m) := by
  split
  · next exbi =>
    subst exbi
    exact read_exbi before after literal known
  · next spared => exact read_scaled before after literal finite least known spared

/-- An exponent of the literal does not take the suffix behind it for itself. -/
theorem thousand_kibi_is_scaled :
    Binary64.read? ['1', 'e', '3'] = some (.ofNat 1000) ∧
      ("Ki", .ofNat (2 ^ 10)) ∈ multipliers ∧
      read (surrounded [' '] ['1', 'e', '3'] "Ki" ['\t']) = .ok (.ofNat 1000 * .ofNat (2 ^ 10)) := by
  have literal : Binary64.read? ['1', 'e', '3'] = some (.ofNat 1000) := by decide
  have known : ("Ki", .ofNat (2 ^ 10)) ∈ multipliers := by decide
  exact ⟨literal, known,
    literal_with_suffix_is_scaled (by decide) (by decide) literal (by decide) (by decide) known⟩

/-- One exbibyte stands in the table of suffixes and cannot be read. -/
theorem one_exbi_is_refused :
    Binary64.read? ['1'] = some (.ofNat 1) ∧ ("Ei", .ofNat (2 ^ 60)) ∈ multipliers ∧
      read "1Ei" = .error (.unknownSuffix "i" "1Ei") := by
  have literal : Binary64.read? ['1'] = some (.ofNat 1) := by decide
  have known : ("Ei", .ofNat (2 ^ 60)) ∈ multipliers := by decide
  have text : surrounded [] ['1'] "Ei" [] = "1Ei" := by decide
  have shown : String.ofList (['1'] ++ "Ei".toList) = "1Ei" := by decide
  have refused := @read_exbi [] [] ['1'] _ _ rfl rfl literal known
  rw [text, shown] at refused
  exact ⟨literal, known, refused⟩

end Read

end Quantity
end ClusterWatch

/-
# The characters of decimal literals

A decimal literal consists of digits, signs, a decimal point and the mark of an exponent.  None of
these is blank, and none can begin the suffix of a quantity: this is what lets a literal be cut out
of a longer text.
-/
import ClusterWatch.Number.Binary64.Literal
import ClusterWatch.Text.Blank

namespace ClusterWatch

theorem Text.toNat_of_isDigit {c : Char} (h : isDigit c = true) : 48 ≤ c.toNat ∧ c.toNat ≤ 57 := by
  simpa [isDigit, Char.le_def, UInt32.le_iff_toNat_le] using h

namespace Binary64

/-- A character that can stand in a decimal literal. -/
def isLiteralChar (c : Char) : Bool :=
  Text.isDigit c || c == '+' || c == '-' || c == '.' || c == 'e' || c == 'E'

variable {c : Char} {cs r : List Char}

theorem isLiteralChar_iff : isLiteralChar c = true ↔
    Text.isDigit c = true ∨ c = '+' ∨ c = '-' ∨ c = '.' ∨ c = 'e' ∨ c = 'E' := by
  simp [isLiteralChar, or_assoc]

theorem isBlank_of_isLiteralChar (h : isLiteralChar c = true) : Text.isBlank c = false := by
  rcases isLiteralChar_iff.mp h with digit | rfl | rfl | rfl | rfl | rfl
  · have range := Text.toNat_of_isDigit digit
    simp [Text.isBlank]
    omega
  all_goals decide

theorem mem_takeSign (h : c ∈ cs) : c ∈ (takeSign cs).2 ∨ c = '+' ∨ c = '-' := by
  unfold takeSign
  split
  · exact (List.mem_cons.mp h).elim (fun sign => Or.inr (Or.inl sign)) Or.inl
  · exact (List.mem_cons.mp h).elim (fun sign => Or.inr (Or.inr sign)) Or.inl
  · exact Or.inl h

theorem mem_takeFraction (h : c ∈ cs) :
    c ∈ (takeFraction cs).1 ∨ c ∈ (takeFraction cs).2 ∨ c = '.' := by
  unfold takeFraction
  split
  · next r =>
    refine (List.mem_cons.mp h).elim (fun point => Or.inr (Or.inr point)) ?_
    intro inside
    rw [← List.takeWhile_append_dropWhile (p := Text.isDigit) (l := r)] at inside
    exact (List.mem_append.mp inside).imp_right Or.inl
  · exact Or.inr (Or.inl h)

theorem isDigit_of_mem_takeFraction (h : c ∈ (takeFraction cs).1) : Text.isDigit c = true := by
  unfold takeFraction at h
  split at h
  · exact List.all_eq_true.mp List.all_takeWhile c h
  · cases h

theorem isLiteralChar_of_isDigit (h : Text.isDigit c = true) : isLiteralChar c = true :=
  isLiteralChar_iff.mpr (Or.inl h)

theorem isLiteralChar_of_readExponent? {e : Int} (read : readExponent? cs = some e) (h : c ∈ cs) :
    isLiteralChar c = true := by
  cases cs with
  | nil => cases h
  | cons mark r =>
      by_cases letter : mark = 'e' ∨ mark = 'E'
      · simp only [readExponent?, if_pos letter] at read
        obtain ⟨_, number, -⟩ := Option.map_eq_some_iff.mp read
        obtain ⟨n, digits, -⟩ := Option.bind_eq_some_iff.mp number
        have fit : (takeSign r).2.all Text.isDigit = true := by
          unfold Decimal.readDigits? at digits
          split at digits
          · next fit => exact fit.2
          · cases digits
        rcases List.mem_cons.mp h with rfl | inside
        · rcases letter with rfl | rfl <;> decide
        · rcases mem_takeSign inside with digit | rfl | rfl
          · exact isLiteralChar_of_isDigit (List.all_eq_true.mp fit c digit)
          · decide
          · decide
      · simp only [readExponent?, if_neg letter] at read
        cases read

theorem isLiteralChar_of_read? {v : Binary64} (read : read? cs = some v) (h : c ∈ cs) :
    isLiteralChar c = true := by
  unfold read? at read
  dsimp only at read
  split at read
  · cases read
  · obtain ⟨e, exponent, -⟩ := Option.map_eq_some_iff.mp read
    rcases mem_takeSign h with body | rfl | rfl
    · rw [← List.takeWhile_append_dropWhile (p := Text.isDigit) (l := (takeSign cs).2)] at body
      rcases List.mem_append.mp body with whole | rest
      · exact isLiteralChar_of_isDigit (List.all_eq_true.mp List.all_takeWhile c whole)
      · rcases mem_takeFraction rest with fraction | tail | rfl
        · exact isLiteralChar_of_isDigit (isDigit_of_mem_takeFraction fraction)
        · exact isLiteralChar_of_readExponent? exponent tail
        · decide
    · decide
    · decide

end Binary64
end ClusterWatch

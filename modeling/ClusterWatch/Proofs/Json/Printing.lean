/-
# Printed strings and numbers read back

A printed value stands in front of a mark: the comma of a later element, a closing bracket, or the
end of the text.  A reader that takes the text for a value whatever mark follows reads it back
(`ReadsBack`).

Printing writes no blanks, so a value begins where its text begins.  The texts here are those of
strings, of natural numbers and of values in brackets (`Leads`): none of them begins like the word
for nothing, so that each reads back where a value may be missing.
-/
import ClusterWatch.Json.Printer
import ClusterWatch.Proofs.Json.Scalars

namespace ClusterWatch.Json

/-! ## Texts that begin a value -/

/-- A character with which a string, a natural number or a value in brackets begins. -/
def isLead (c : Char) : Bool := Text.isDigit c || ['"', '[', '{'].contains c

/-- A text that begins with a value of one of these kinds. -/
def Leads (cs : List Char) : Prop := ∃ c r, cs = c :: r ∧ isLead c = true

theorem ne_of_isLead {c : Char} (lead : isLead c = true) :
    isSpace c = false ∧ c ∉ ['n', ',', ']', '}'] := by
  constructor
  · rw [← Bool.not_eq_true]
    intro space
    simp only [isSpace, Bool.or_eq_true, beq_iff_eq] at space
    rcases space with ((rfl | rfl) | rfl) | rfl <;> exact absurd lead (by decide)
  · intro other
    simp only [List.mem_cons, List.not_mem_nil, or_false] at other
    rcases other with rfl | rfl | rfl | rfl <;> exact absurd lead (by decide)

theorem Leads.append {cs : List Char} (lead : Leads cs) (r : List Char) : Leads (cs ++ r) := by
  obtain ⟨c, tail, rfl, isLead⟩ := lead
  exact ⟨c, tail ++ r, rfl, isLead⟩

theorem Leads.skipSpace {cs : List Char} (lead : Leads cs) : skipSpace cs = cs := by
  obtain ⟨c, r, rfl, isLead⟩ := lead
  simp [Json.skipSpace, (ne_of_isLead isLead).1]

theorem Leads.length_pos {cs : List Char} (lead : Leads cs) : 0 < cs.length := by
  obtain ⟨c, r, rfl, -⟩ := lead
  exact Nat.succ_pos _

theorem ends_cons {c : Char} {r : List Char} (mark : isMark c = true) : Ends (c :: r) := by
  rintro _ ⟨⟩
  exact mark

/-- A reader takes a text for a value, whatever mark follows. -/
structure ReadsBack {α : Type} (read : Reader α) (text : List Char) (v : α) : Prop where
  leads : Leads text
  answer : ∀ {r : List Char}, Ends r → read (text ++ r) = .ok (v, r)

variable {α β : Type} {read : Reader α} {text : List Char} {v : α}

theorem ReadsBack.map (h : ReadsBack read text v) (f : α → β) :
    ReadsBack (read.map f) text (f v) where
  leads := h.leads
  answer := by
    intro r ends
    simp only [Reader.map, h.answer ends]
    rfl

theorem ReadsBack.optional (h : ReadsBack read text v) :
    ReadsBack (readOptional read) text (some v) where
  leads := h.leads
  answer := by
    intro r ends
    have answer := h.answer ends
    obtain ⟨c, tail, rfl, lead⟩ := h.leads
    have hsome : c ≠ 'n' := fun hnone => (ne_of_isLead lead).2 (by simp [hnone])
    have front : skipSpace (c :: tail ++ r) = c :: (tail ++ r) := (h.leads.append r).skipSpace
    unfold readOptional
    rw [front]
    split
    · rename_i same
      exact absurd (List.cons.inj same).1 hsome
    · rw [List.cons_append] at answer
      rw [answer]
      rfl

/-! ## Strings -/

namespace Quoted

theorem takeHex?_hexDigits {n : Nat} (control : n < 0x20) (r : List Char) :
    takeHex? (Text.hexDigits 4 n ++ r) = some (n, r) := by
  have alone : ∀ n < 0x20, takeHex? (Text.hexDigits 4 n) = some (n, []) := by decide
  obtain ⟨front, same, -, anyRest⟩ := takeHex?_eq_some (alone n control)
  rw [same, List.append_nil]
  exact anyRest r

theorem escape_cases (c : Char) :
    (∃ e, escape c = ['\\', e] ∧ shortEscape? e = some c ∧ e ≠ 'u') ∨
      (escape c = '\\' :: 'u' :: Text.hexDigits 4 c.toNat ∧ c.toNat < 0x20) ∨
      (escape c = [c] ∧ c ≠ '"' ∧ c ≠ '\\' ∧ ¬c.toNat < 0x20) := by
  by_cases short : c ∈ ['"', '\\', '\x08', '\x0c', '\n', '\x0d', '\t']
  · left
    simp only [List.mem_cons, List.not_mem_nil, or_false] at short
    rcases short with rfl | rfl | rfl | rfl | rfl | rfl | rfl <;> exact ⟨_, rfl, rfl, by decide⟩
  · right
    simp only [List.mem_cons, List.not_mem_nil, or_false, not_or] at short
    obtain ⟨quote, backslash, b, f, n, r, t⟩ := short
    by_cases control : c.toNat < 0x20
    · refine Or.inl ⟨?_, control⟩
      simp only [escape, quote, backslash, b, f, n, r, t, control, if_true, if_false]
    · exact Or.inr ⟨by simp only [escape, quote, backslash, b, f, n, r, t, control, if_false],
        quote, backslash, control⟩

theorem takeChar?_escape (c : Char) (r : List Char) :
    takeChar? (escape c ++ r) = some (c, r) ∧ ∀ r', escape c ++ r ≠ '"' :: r' := by
  rcases escape_cases c with ⟨e, written, short, other⟩ | ⟨written, control⟩ |
    ⟨written, quote, backslash, control⟩
  · simp [written, takeChar?, short, other]
  · have high : isHighHalf c.toNat = false := by simp [isHighHalf]; omega
    have low : isLowHalf c.toNat = false := by simp [isLowHalf]; omega
    simp [written, takeChar?, takeCodePoint?, takeHex?_hexDigits control, high, low]
  · simp [written, takeChar?, quote, backslash, control]

theorem decodeFrom_escape {fuel : Nat} (read text r : List Char) (enough : text.length < fuel) :
    decodeFrom fuel read (text.flatMap escape ++ '"' :: r) = some (read.reverse ++ text, r) := by
  induction text generalizing fuel read with
  | nil =>
      cases fuel with
      | zero => cases enough
      | succ fuel => simp [decodeFrom]
  | cons c text ih =>
      cases fuel with
      | zero => cases enough
      | succ fuel =>
          obtain ⟨taken, quote⟩ := takeChar?_escape c (text.flatMap escape ++ '"' :: r)
          have later := ih (c :: read) (Nat.lt_of_succ_lt_succ enough)
          rw [List.flatMap_cons, List.append_assoc]
          unfold decodeFrom
          split
          · rename_i same
            exact absurd same (quote _)
          · rw [taken]
            simp [later]

theorem length_le_escape (text : List Char) : text.length ≤ (text.flatMap escape).length := by
  induction text with
  | nil => exact Nat.le_refl 0
  | cons c text ih =>
      have hsome : 1 ≤ (escape c).length := by
        rcases escape_cases c with ⟨e, written, -⟩ | ⟨written, -⟩ | ⟨written, -⟩ <;> simp [written]
      simp only [List.length_cons, List.flatMap_cons, List.length_append]
      omega

theorem decode_escape (s : String) (r : List Char) :
    decode (s.toList.flatMap escape ++ '"' :: r) = .ok (s, r) := by
  have enough : s.toList.length < (s.toList.flatMap escape ++ '"' :: r).length := by
    have long := length_le_escape s.toList
    simp only [List.length_append, List.length_cons]
    omega
  rw [decode, decodeFrom_escape [] s.toList r enough]
  simp

end Quoted

theorem encode_append (s : String) (r : List Char) :
    Quoted.encode Quoted.escape s ++ r = '"' :: (s.toList.flatMap Quoted.escape ++ '"' :: r) := by
  simp [Quoted.encode]

theorem readsBack_text (s : String) :
    ReadsBack readText (render Quoted.escape (.string s)) s where
  leads := ⟨'"', _, rfl, by decide⟩
  answer := by
    intro r ends
    rw [render, encode_append]
    exact Quoted.decode_escape s r

/-! ## Natural numbers -/

theorem wholeDigits_digits (n : Nat) : WholeDigits (Decimal.digits n) := by
  refine ⟨⟨Decimal.digits_ne_nil n, List.all_eq_true.mp (Decimal.all_isDigit_digits n)⟩, ?_⟩
  -- The digits of a number begin with those of its tenth.
  induction n using Nat.strongRecOn with
  | ind n ih =>
      rcases Nat.lt_or_ge n 10 with one | more
      · have last : ∀ n < 10, (Decimal.digits n).head? = some '0' → Decimal.digits n = ['0'] := by
          decide
        exact last n one
      · intro zero
        have front : Decimal.digits n = Decimal.digits (n / 10) ++ [(n % 10).digitChar] :=
          Nat.toDigits_of_base_le (by decide) more
        have positive : 0 < n / 10 := Nat.div_pos more (by decide)
        obtain ⟨c, tail, same, -⟩ := Decimal.digits_eq_cons (n / 10)
        have zero' : (Decimal.digits (n / 10)).head? = some '0' := by
          rw [front, same] at zero
          rw [same]
          exact zero
        have tenth := ih (n / 10) (Nat.div_lt_self (by omega) (by decide)) zero'
        have value := Decimal.value_digits (n / 10)
        rw [tenth] at value
        exact absurd value (Nat.ne_of_lt positive)

namespace Numeral

theorem le_ofDigitChars (ds : List Char) (significand : Nat) :
    significand ≤ Nat.ofDigitChars 10 ds significand := by
  induction ds generalizing significand with
  | nil => exact Nat.le_refl _
  | cons d ds ih =>
      rw [Nat.ofDigitChars_cons]
      exact Nat.le_trans (by omega) (ih _)

theorem takeIn_eq {ds : List Char} {significand : Nat}
    (fits : Nat.ofDigitChars 10 ds significand ≤ Decimal.maxU64) :
    takeIn significand ds = (Nat.ofDigitChars 10 ds significand, []) := by
  induction ds generalizing significand with
  | nil => rfl
  | cons d ds ih =>
      rw [Nat.ofDigitChars_cons, Nat.mul_comm] at fits ⊢
      have least := Nat.le_trans (le_ofDigitChars ds _) fits
      rw [takeIn, if_neg (Nat.not_lt.mpr least)]
      exact ih fits

theorem isDigit_of_isMark {c : Char} (mark : isMark c = true) :
    Text.isDigit c = false ∧ c ∉ ['.', 'e', 'E'] := by
  have plain : isNumeric c = false := by
    rw [← Bool.not_eq_true]
    intro numeric
    rw [isMark_of_isNumeric numeric] at mark
    cases mark
  simp only [isNumeric, Bool.or_eq_false_iff, List.contains_eq_mem, decide_eq_false_iff_not,
    List.mem_cons, List.not_mem_nil, or_false, not_or] at plain
  refine ⟨plain.1, ?_⟩
  simp [plain.2]

theorem readUnsigned_digits {n : Nat} (fits : n ≤ Decimal.maxU64) {r : List Char} (ends : Ends r) :
    readUnsigned false (Decimal.digits n ++ r) = .ok (.whole n, r) := by
  obtain ⟨⟨hsome, digits⟩, whole⟩ := wholeDigits_digits n
  have behind : ∀ c ∈ r.head?, Text.isDigit c = false :=
    fun c head => (isDigit_of_isMark (ends c head)).1
  have front : (Decimal.digits n ++ r).takeWhile Text.isDigit = Decimal.digits n := by
    rw [List.takeWhile_append_of_pos digits]
    cases r with
    | nil => simp
    | cons c r => simp [behind c rfl]
  have rest : (Decimal.digits n ++ r).dropWhile Text.isDigit = r := by
    rw [List.dropWhile_append_of_pos digits]
    cases r with
    | nil => rfl
    | cons c r => simp [behind c rfl]
  have value : Nat.ofDigitChars 10 (Decimal.digits n) 0 = n := Decimal.value_digits n
  have taken : takeIn 0 (Decimal.digits n) = (n, []) := by
    rw [takeIn_eq (by rwa [value]), value]
  have good : ¬(Decimal.digits n = [] ∨
      (Decimal.digits n).head? = some '0' ∧ Decimal.digits n ≠ ['0']) := by
    rintro (hnone | ⟨zero, more⟩)
    · exact hsome hnone
    · exact more (whole zero)
  unfold readUnsigned
  simp only [front, rest, if_neg good, taken]
  cases r with
  | nil => simp [ofWhole]
  | cons c r =>
      have plain := (isDigit_of_isMark (ends c rfl)).2
      simp only [List.mem_cons, List.not_mem_nil, or_false, not_or] at plain
      obtain ⟨point, small, capital⟩ := plain
      split
      · rename_i same
        exact absurd (List.cons.inj same).1 point
      · rename_i same
        obtain ⟨rfl, rfl⟩ := List.cons.inj same
        simp [small, capital, ofWhole]
      · rename_i same
        cases same

end Numeral

theorem render_nat (n : Nat) : render Quoted.escape (.nat n) = Decimal.digits n := by
  simp [Json.nat, render, Decimal.ofInt, Decimal.ofNat, Int.not_lt.mpr]

theorem leads_digits (n : Nat) : Leads (Decimal.digits n) := by
  obtain ⟨c, tail, front, -⟩ := Decimal.digits_eq_cons n
  have digit : Text.isDigit c = true :=
    List.all_eq_true.mp (Decimal.all_isDigit_digits n) c (by simp [front])
  exact ⟨c, tail, front, by simp [isLead, digit]⟩

theorem readNumeral_digits {n : Nat} (fits : n ≤ Decimal.maxU64) {r : List Char} (ends : Ends r) :
    readNumeral (Decimal.digits n ++ r) = .ok (.whole n, r) := by
  obtain ⟨c, tail, front, plus, minus⟩ := Decimal.digits_eq_cons n
  have digit : Text.isDigit c = true :=
    List.all_eq_true.mp (Decimal.all_isDigit_digits n) c (by simp [front])
  have unsigned := Numeral.readUnsigned_digits fits ends
  unfold readNumeral
  rw [((leads_digits n).append r).skipSpace]
  rw [front, List.cons_append] at unsigned ⊢
  have start : Numeral.startsWith c = true := by simp [Numeral.startsWith, digit]
  simp only [start, if_true]
  unfold Numeral.read
  split
  · rename_i same
    exact absurd (List.cons.inj same).1 minus
  · exact unsigned

theorem readsBack_nat {n : Nat} (fits : n ≤ Decimal.maxU64) :
    ReadsBack readReal (render Quoted.escape (.nat n)) (Binary64.ofNat n) := by
  rw [render_nat]
  refine ⟨leads_digits n, ?_⟩
  intro r ends
  simp only [readReal, readNumeral_digits fits ends]
  rfl

theorem readsBack_whole {least most : Int} {n : Nat} (fits : n ≤ Decimal.maxU64)
    (range : least ≤ n ∧ n ≤ most) :
    ReadsBack (readWhole least most) (render Quoted.escape (.nat n)) n := by
  rw [render_nat]
  refine ⟨leads_digits n, ?_⟩
  intro r ends
  simp only [readWhole, readNumeral_digits fits ends, bind, Except.bind, if_pos range]

end ClusterWatch.Json

/-
# The order of texts is the order of their bytes

Texts are compared character by character.  In UTF-8 a greater character has greater bytes: the
first byte tells how many there are, and then the bits follow from the highest on.  So comparing the
bytes of two texts gives the same answer (`bytes_le_iff`).
-/
import ClusterWatch.Number.Power

namespace ClusterWatch.Text

def bytes (s : String) : List UInt8 := s.toUTF8.data.toList

theorem bytes_eq (s : String) : bytes s = s.toList.flatMap String.utf8EncodeChar := by
  have whole : s.toUTF8 = s.toList.utf8Encode := by simp
  rw [bytes, whole, List.utf8Encode]
  simp

theorem lt_digits {m n : Nat} (less : m < n) (k : Nat) :
    m / k < n / k ∨ m / k = n / k ∧ m % k < n % k := by
  rcases Nat.lt_or_eq_of_le (Nat.div_le_div_right (c := k) (Nat.le_of_lt less)) with upper | upper
  · exact Or.inl upper
  · have low := Nat.div_add_mod m k
    have high := Nat.div_add_mod n k
    rw [upper] at low
    exact Or.inr ⟨upper, by omega⟩

/-- The bytes with the low bits of a character, six in each, in front of a text. -/
def continuation : Nat → Nat → List UInt8 → List UInt8
  | 0, _, r => r
  | k + 1, n, r => UInt8.ofNat (n / 64 ^ k % 64 + 0x80) :: continuation k n r

/-- A form of a character in bytes: how many bytes follow the first one, what the first one adds to
the high bits, and the least and the greatest character of the form. -/
structure Shape where
  size : Nat
  mark : Nat
  least : Nat
  most : Nat
deriving DecidableEq

/-- The first byte of a character. -/
def Shape.lead (shape : Shape) (n : Nat) : Nat := n / 64 ^ shape.size + shape.mark

def shapes : List Shape :=
  [⟨0, 0, 0, 0x7F⟩, ⟨1, 0xC0, 0x80, 0x7FF⟩, ⟨2, 0xE0, 0x800, 0xFFFF⟩, ⟨3, 0xF0, 0x10000, 0x10FFFF⟩]

theorem lead_lt_of_mem : ∀ shape ∈ shapes, shape.lead shape.most < 256 := by decide

/-- Of two forms the one for greater characters has greater first bytes. -/
theorem eq_or_apart_of_mem : ∀ shape ∈ shapes, ∀ shape' ∈ shapes,
    shape = shape' ∨ shape'.most < shape.least ∨
      shape.lead shape.most < shape'.lead shape'.least := by
  decide

theorem Shape.lead_le {m n : Nat} (le : m ≤ n) (shape : Shape) : shape.lead m ≤ shape.lead n :=
  Nat.add_le_add_right (Nat.div_le_div_right le) _

theorem toNat_le_of_char (c : Char) : c.val.toNat ≤ 0x10FFFF := by
  rcases c.valid with low | ⟨-, high⟩
  · exact Nat.le_trans (Nat.le_of_lt low) (by decide)
  · exact Nat.le_of_lt_succ high

theorem utf8EncodeChar_append (c : Char) (r : List UInt8) :
    ∃ shape ∈ shapes, shape.least ≤ c.val.toNat ∧ c.val.toNat ≤ shape.most ∧
      String.utf8EncodeChar c ++ r =
        UInt8.ofNat (shape.lead c.val.toNat) :: continuation shape.size c.val.toNat r := by
  have high := toNat_le_of_char c
  unfold String.utf8EncodeChar
  dsimp only
  generalize c.val.toNat = n at high
  split
  · rename_i one
    exact ⟨_, .head _, Nat.zero_le n, one, by simp [continuation, Shape.lead]⟩
  rename_i one
  split
  · rename_i two
    have bits : n / 64 % 0x20 = n / 64 := by omega
    exact ⟨_, .tail _ (.head _), Nat.lt_of_not_le one, two,
      by simp [continuation, Shape.lead, bits]⟩
  rename_i two
  split
  · rename_i three
    have bits : n / 4096 % 0x10 = n / 4096 := by omega
    exact ⟨_, .tail _ (.tail _ (.head _)), Nat.lt_of_not_le two, three,
      by simp [continuation, Shape.lead, bits]⟩
  · rename_i three
    have bits : n / 262144 % 0x08 = n / 262144 := by omega
    exact ⟨_, .tail _ (.tail _ (.tail _ (.head _))), Nat.lt_of_not_le three, high,
      by simp [continuation, Shape.lead, bits]⟩

theorem ofNat_cons_lt {a b : Nat} {l r : List UInt8} (byte : b < 256)
    (less : a < b ∨ a = b ∧ l < r) : UInt8.ofNat a :: l < UInt8.ofNat b :: r := by
  rw [List.cons_lt_cons_iff]
  rcases less with less | ⟨rfl, rest⟩
  · left
    rw [UInt8.lt_iff_toNat_lt, UInt8.toNat_ofNat', UInt8.toNat_ofNat']
    omega
  · exact Or.inr ⟨rfl, rest⟩

theorem continuation_lt {k m n : Nat} (less : m % 64 ^ k < n % 64 ^ k) (r t : List UInt8) :
    continuation k m r < continuation k n t := by
  induction k with
  | zero => simp [Nat.mod_one] at less
  | succ k ih =>
      have digits := lt_digits less (64 ^ k)
      simp only [Nat.pow_succ, Nat.mod_mul_right_div_self, Nat.mod_mul_right_mod] at digits
      rcases digits with upper | ⟨upper, lower⟩
      · exact ofNat_cons_lt (by omega) (Or.inl (by omega))
      · exact ofNat_cons_lt (by omega) (Or.inr ⟨by omega, ih lower⟩)

theorem utf8EncodeChar_append_lt {c d : Char} (h : c < d) (r t : List UInt8) :
    String.utf8EncodeChar c ++ r < String.utf8EncodeChar d ++ t := by
  have less : c.val.toNat < d.val.toNat := h
  obtain ⟨shape, mem, low, high, same⟩ := utf8EncodeChar_append c r
  obtain ⟨shape', mem', low', high', same'⟩ := utf8EncodeChar_append d t
  rw [same, same']
  have byte := Nat.lt_of_le_of_lt (shape'.lead_le high') (lead_lt_of_mem shape' mem')
  refine ofNat_cons_lt byte ?_
  rcases eq_or_apart_of_mem shape mem shape' mem' with rfl | below | above
  · rcases lt_digits less (64 ^ shape.size) with upper | ⟨equal, lower⟩
    · exact Or.inl (Nat.add_lt_add_right upper _)
    · exact Or.inr ⟨congrArg (· + shape.mark) equal, continuation_lt lower r t⟩
  · omega
  · left
    calc shape.lead c.val.toNat
        ≤ shape.lead shape.most := shape.lead_le high
      _ < shape'.lead shape'.least := above
      _ ≤ shape'.lead d.val.toNat := shape'.lead_le low'

theorem flatMap_utf8EncodeChar_lt {as bs : List Char} (h : as < bs) :
    as.flatMap String.utf8EncodeChar < bs.flatMap String.utf8EncodeChar := by
  induction h with
  | @nil b bs =>
      obtain ⟨first, more, front⟩ :=
        List.exists_cons_of_ne_nil (String.utf8EncodeChar_ne_nil (c := b))
      rw [List.flatMap_cons, front]
      exact List.nil_lt_cons _ _
  | rel less =>
      rw [List.flatMap_cons, List.flatMap_cons]
      exact utf8EncodeChar_append_lt less _ _
  | cons _ ih =>
      rw [List.flatMap_cons, List.flatMap_cons]
      exact List.append_left_lt ih

/-- A text comes before another if and only if its bytes do. -/
theorem bytes_lt_iff (a b : String) : bytes a < bytes b ↔ a < b := by
  have forth {a b : String} (less : a < b) : bytes a < bytes b := by
    rw [bytes_eq, bytes_eq]
    exact flatMap_utf8EncodeChar_lt less
  refine ⟨?_, forth⟩
  intro less
  rcases Std.lt_trichotomy a b with before | rfl | behind
  · exact before
  · exact absurd less (List.lt_irrefl _)
  · exact absurd less (List.lt_asymm (forth behind))

theorem bytes_le_iff (a b : String) : bytes a ≤ bytes b ↔ a ≤ b :=
  not_congr (bytes_lt_iff b a)

end ClusterWatch.Text

/-
# Values in bytes

The bytes of a text are read as that text (`textOf_toUTF8`), so nothing that is known about readers
of texts is lost when they are given bytes.

Bytes that are the bytes of no text are refused only where it matters.  A string may hold bytes that
belong to no character as long as nobody wants it: it is skipped like any other, while no string that
is kept, and no name of a field, can hold such a byte (`skip_mend`, `decode_mend`).
-/
import ClusterWatch.Json.Bytes
import ClusterWatch.Proofs.Text.ByteOrder

namespace ClusterWatch

/-! ## Characters in bytes -/

namespace Text.Utf8

theorem first?_append (c : Char) (bytes : List UInt8) :
    first? (String.utf8EncodeChar c ++ bytes) = some c := by
  have short : (String.utf8EncodeChar c).length ≤ longest := by
    rw [String.length_utf8EncodeChar]
    exact c.utf8Size_le_four
  have whole : (String.utf8EncodeChar c ++ bytes).take longest =
      String.utf8EncodeChar c ++ bytes.take (longest - (String.utf8EncodeChar c).length) := by
    rw [List.take_append, List.take_of_length_le short]
  have split : (⟨((String.utf8EncodeChar c ++ bytes).take longest).toArray⟩ : ByteArray) =
      (String.utf8EncodeChar c).toByteArray ++
        (bytes.take (longest - (String.utf8EncodeChar c).length)).toByteArray := by
    rw [whole, ← List.toByteArray_append]
    exact ByteArray.ext (by simp)
  rw [first?, split]
  exact ByteArray.utf8DecodeChar?_utf8EncodeChar_append

theorem decodeFrom_append (front bytes : List UInt8) :
    decodeFrom front.length (front ++ bytes) = decode bytes := by
  induction front with
  | nil => rfl
  | cons b front ih => exact ih

theorem decode_cons (c : Char) (bytes : List UInt8) :
    decode (String.utf8EncodeChar c ++ bytes) = some c :: decode bytes := by
  have found := first?_append c bytes
  have size := String.length_utf8EncodeChar c
  cases encoded : String.utf8EncodeChar c with
  | nil =>
      rw [encoded] at size
      exact absurd size.symm (Nat.ne_of_gt c.utf8Size_pos)
  | cons b front =>
      rw [encoded] at found size
      have pending : c.utf8Size - 1 = front.length := by
        rw [← size]
        rfl
      rw [List.cons_append] at found ⊢
      rw [decode, decodeFrom, found]
      show some c :: decodeFrom (c.utf8Size - 1) (front ++ bytes) = _
      rw [pending, decodeFrom_append]

theorem decode_flatMap (cs : List Char) :
    decode (cs.flatMap String.utf8EncodeChar) = cs.map some := by
  induction cs with
  | nil => rfl
  | cons c cs ih => rw [List.flatMap_cons, decode_cons, ih, List.map_cons]

end Text.Utf8

namespace Json

theorem mend_map_some (escaping : Bool) (cs : List Char) : mend escaping (cs.map some) = cs := by
  induction cs generalizing escaping with
  | nil => rfl
  | cons c cs ih => rw [List.map_cons, mend, ih]

theorem textOf_toUTF8 (s : String) : textOf s.toUTF8.data.toList = s.toList := by
  have encoded : s.toUTF8.data.toList = s.toList.flatMap String.utf8EncodeChar := Text.bytes_eq s
  rw [textOf, encoded, Text.Utf8.decode_flatMap, mend_map_some]

/-! ## Strings in bytes -/

/-- Neither the end of a string nor an escape nor a control character; a byte that belongs to no
character is neither. -/
def IsPlain (x : Option Char) : Prop := ∀ c ∈ x, c ≠ '"' ∧ c ≠ '\\' ∧ ¬c.toNat < 0x20

variable {content : List (Option Char)}

theorem mend_some {c : Char} (hc : IsPlain (some c)) (cs : List (Option Char)) :
    mend false (some c :: cs) = c :: mend false cs := by
  have other : (c == '\\') = false := beq_false_of_ne (hc c rfl).2.1
  rw [mend, other]
  rfl

theorem mend_end (rest : List (Option Char)) :
    mend false (some '"' :: rest) = '"' :: mend false rest :=
  rfl

theorem length_mend_none (cs : List (Option Char)) :
    (mend false (none :: cs)).length = (mend false cs).length + 7 := by
  rw [mend, List.length_append, Nat.add_comm]
  rfl

theorem length_le_mend (escaping : Bool) (cs : List (Option Char)) :
    cs.length ≤ (mend escaping cs).length := by
  induction cs generalizing escaping with
  | nil => exact Nat.le_refl 0
  | cons x cs ih =>
      cases x with
      | some c => exact Nat.succ_le_succ (ih _)
      | none =>
          have later := ih false
          cases escaping with
          | true => exact Nat.succ_le_succ later
          | false =>
              rw [length_mend_none, List.length_cons]
              omega

namespace Quoted

theorem skipFrom_plain {c : Char} (hc : IsPlain (some c)) (fuel : Nat) (r : List Char) :
    skipFrom (fuel + 1) (c :: r) = skipFrom fuel r := by
  obtain ⟨quote, backslash, control⟩ := hc c rfl
  rw [skipFrom.eq_def]
  simp [skipChar?, quote, backslash, control]

theorem decodeFrom_plain {c : Char} (hc : IsPlain (some c)) (fuel : Nat) (read r : List Char) :
    decodeFrom (fuel + 1) read (c :: r) = decodeFrom fuel (c :: read) r := by
  obtain ⟨quote, backslash, control⟩ := hc c rfl
  rw [decodeFrom.eq_def]
  simp [takeChar?, quote, backslash, control]

theorem skipFrom_mend (plain : ∀ x ∈ content, IsPlain x) (rest : List (Option Char)) {fuel : Nat}
    (enough : (mend false (content ++ some '"' :: rest)).length ≤ fuel) :
    skipFrom fuel (mend false (content ++ some '"' :: rest)) = .ok (mend false rest) := by
  induction content generalizing fuel with
  | nil =>
      rw [List.nil_append, mend_end] at enough ⊢
      obtain ⟨fuel, rfl⟩ := Nat.exists_eq_add_of_le' (Nat.le_trans (Nat.le_add_left 1 _) enough)
      rfl
  | cons x content ih =>
      obtain ⟨hx, hcontent⟩ := List.forall_mem_cons.mp plain
      cases x with
      | some c =>
          rw [List.cons_append, mend_some hx] at enough ⊢
          obtain ⟨fuel, rfl⟩ := Nat.exists_eq_add_of_le' (Nat.le_trans (Nat.le_add_left 1 _) enough)
          rw [skipFrom_plain hx]
          exact ih hcontent (Nat.le_of_succ_le_succ enough)
      | none =>
          rw [List.cons_append, length_mend_none] at enough
          -- The escape is skipped, and then the blank behind it.
          obtain ⟨fuel, rfl⟩ := Nat.exists_eq_add_of_le' (show 2 ≤ fuel by omega)
          exact ih hcontent (by omega)

/-- A string that is not wanted may hold bytes that belong to no character. -/
theorem skip_mend (plain : ∀ x ∈ content, IsPlain x) (rest : List (Option Char)) :
    skip (mend false (content ++ some '"' :: rest)) = .ok (mend false rest) :=
  skipFrom_mend plain rest (Nat.le_refl _)

theorem decodeFrom_mend (plain : ∀ x ∈ content, IsPlain x) (rest : List (Option Char)) {fuel : Nat}
    (enough : content.length < fuel) (read : List Char) :
    decodeFrom fuel read (mend false (content ++ some '"' :: rest)) =
      if none ∈ content then none
      else some (read.reverse ++ content.filterMap id, mend false rest) := by
  induction content generalizing fuel read with
  | nil =>
      obtain ⟨fuel, rfl⟩ := Nat.exists_eq_add_of_le' (Nat.one_le_of_lt enough)
      simp [mend, decodeFrom]
  | cons x content ih =>
      obtain ⟨hx, hcontent⟩ := List.forall_mem_cons.mp plain
      obtain ⟨fuel, rfl⟩ := Nat.exists_eq_add_of_le' (Nat.one_le_of_lt enough)
      cases x with
      | some c =>
          rw [List.cons_append, mend_some hx, decodeFrom_plain hx,
            ih hcontent (Nat.lt_of_succ_lt_succ enough)]
          simp
      | none =>
          rw [if_pos List.mem_cons_self]
          rfl

/-- A string that is kept holds characters alone. -/
theorem decode_mend (plain : ∀ x ∈ content, IsPlain x) (rest : List (Option Char)) :
    decode (mend false (content ++ some '"' :: rest)) =
      if none ∈ content then .error .malformed
      else .ok (String.ofList (content.filterMap id), mend false rest) := by
  have enough : content.length < (mend false (content ++ some '"' :: rest)).length := by
    have long := length_le_mend false (content ++ some '"' :: rest)
    rw [List.length_append, List.length_cons] at long
    omega
  rw [decode, decodeFrom_mend plain rest enough]
  by_cases stray : none ∈ content
  · rw [if_pos stray, if_pos stray]
  · rw [if_neg stray, if_neg stray]
    rfl

end Quoted
end Json
end ClusterWatch

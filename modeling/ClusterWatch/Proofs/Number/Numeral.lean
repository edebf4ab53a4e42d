/-
# Texts of whole numbers

A whole number is read from its digits, perhaps with zeros in front (`Decimal.IsNumeral`), and from
its digits with a sign in front of them: a natural number may have a plus sign (`SpellsNat`), an
integer may have either (`SpellsInt`).  The readers take these texts and no others, and only for
numbers within their range.
-/
import ClusterWatch.Number.Decimal
import ClusterWatch.Proofs.Number.Literal

namespace ClusterWatch.Decimal

/-- Digits that stand for a number, perhaps with zeros in front. -/
structure IsNumeral (ds : List Char) (n : Nat) : Prop where
  ne_nil : ds ≠ []
  digits : ds.all Text.isDigit = true
  value_eq : value ds = n

theorem readDigits?_eq_some_iff (ds : List Char) (n : Nat) :
    readDigits? ds = some n ↔ IsNumeral ds n := by
  unfold readDigits?
  split
  · next plain => exact ⟨fun same => ⟨plain.1, plain.2, Option.some.inj same⟩,
      fun numeral => congrArg some numeral.value_eq⟩
  · next other => exact ⟨fun same => absurd same.symm (Option.some_ne_none n),
      fun numeral => absurd ⟨numeral.ne_nil, numeral.digits⟩ other⟩

theorem value_zeros_append (k : Nat) (ds : List Char) :
    value (List.replicate k '0' ++ ds) = value ds := by
  induction k with
  | zero => rfl
  | succ k ih =>
      rw [List.replicate_succ, List.cons_append]
      exact ih

theorem isNumeral_digits (n : Nat) : IsNumeral (digits n) n :=
  ⟨digits_ne_nil n, all_isDigit_digits n, value_digits n⟩

inductive SpellsNat : Nat → List Char → Prop
  | plain {ds : List Char} {n : Nat} : IsNumeral ds n → SpellsNat n ds
  | plus {ds : List Char} {n : Nat} : IsNumeral ds n → SpellsNat n ('+' :: ds)

inductive SpellsInt : Int → List Char → Prop
  | plain {ds : List Char} {n : Nat} : IsNumeral ds n → SpellsInt n ds
  | plus {ds : List Char} {n : Nat} : IsNumeral ds n → SpellsInt n ('+' :: ds)
  | minus {ds : List Char} {n : Nat} : IsNumeral ds n → SpellsInt (-n) ('-' :: ds)

variable {ds : List Char} {n : Nat}

theorem IsNumeral.exists_cons (h : IsNumeral ds n) :
    ∃ d r, ds = d :: r ∧ Text.isDigit d = true ∧ d ≠ '+' ∧ d ≠ '-' := by
  obtain ⟨d, r, rfl⟩ := List.exists_cons_of_ne_nil h.ne_nil
  have digit : Text.isDigit d = true := List.all_eq_true.mp h.digits d List.mem_cons_self
  refine ⟨d, r, rfl, digit, ?_, ?_⟩ <;> rintro rfl <;> exact absurd digit (by decide)

theorem IsNumeral.solid (h : IsNumeral ds n) : ∀ c ∈ ds, Text.isBlank c = false := by
  intro c inside
  have digit := List.all_eq_true.mp h.digits c inside
  exact Binary64.isBlank_of_isLiteralChar (Binary64.isLiteralChar_of_isDigit digit)

theorem readNat?_eq_some_iff {most : Nat} {s : String} :
    readNat? most s = some n ↔ SpellsNat n s.toList ∧ n ≤ most := by
  simp only [readNat?, Option.filter_eq_some_iff, decide_eq_true_eq, readDigits?_eq_some_iff]
  refine and_congr_left fun _ => ?_
  constructor
  · intro numeral
    split at numeral
    · next same => exact same ▸ .plus numeral
    · exact .plain numeral
  · generalize s.toList = cs
    intro spells
    cases spells with
    | plain numeral =>
        obtain ⟨d, r, rfl, -, plus, -⟩ := numeral.exists_cons
        split
        · next same => exact absurd (List.cons.inj same).1 plus
        · exact numeral
    | plus numeral => exact numeral

theorem readInt?_eq_some_iff {least most i : Int} {s : String} :
    readInt? least most s = some i ↔ SpellsInt i s.toList ∧ least ≤ i ∧ i ≤ most := by
  simp only [readInt?, Option.filter_eq_some_iff, decide_eq_true_eq]
  refine and_congr_left fun _ => ?_
  generalize s.toList = cs
  constructor
  · intro read
    split at read
    all_goals
      obtain ⟨n, digits, rfl⟩ := Option.map_eq_some_iff.mp read
      have numeral := (readDigits?_eq_some_iff _ n).mp digits
    · exact .plus numeral
    · exact .minus numeral
    · exact .plain numeral
  · intro spells
    cases spells with
    | @plain _ n numeral =>
        have digits := (readDigits?_eq_some_iff _ n).mpr numeral
        obtain ⟨d, r, rfl, -, plus, minus⟩ := numeral.exists_cons
        split
        · next same => exact absurd (List.cons.inj same).1 plus
        · next same => exact absurd (List.cons.inj same).1 minus
        · exact Option.map_eq_some_iff.mpr ⟨n, digits, rfl⟩
    | @plus _ n numeral =>
        exact Option.map_eq_some_iff.mpr ⟨n, (readDigits?_eq_some_iff _ n).mpr numeral, rfl⟩
    | @minus _ n numeral =>
        exact Option.map_eq_some_iff.mpr ⟨n, (readDigits?_eq_some_iff _ n).mpr numeral, rfl⟩

theorem spellsInt_ofInt (i : Int) : SpellsInt i (ofInt i).toList := by
  have numeral := isNumeral_digits i.natAbs
  by_cases negative : i < 0
  · have same : -(i.natAbs : Int) = i := by omega
    have spells : SpellsInt (-(i.natAbs : Int)) ('-' :: digits i.natAbs) := .minus numeral
    rw [same] at spells
    rwa [ofInt, if_pos negative, String.toList_ofList]
  · have same : (i.natAbs : Int) = i := by omega
    have spells : SpellsInt (i.natAbs : Int) (digits i.natAbs) := .plain numeral
    rw [same] at spells
    rwa [ofInt, if_neg negative, ofNat, String.toList_ofList]

theorem SpellsInt.ne_nil {i : Int} {cs : List Char} (h : SpellsInt i cs) : cs ≠ [] := by
  cases h with
  | plain numeral => exact numeral.ne_nil
  | plus | minus => exact List.cons_ne_nil _ _

theorem SpellsInt.isLiteralChar {i : Int} {cs : List Char} (h : SpellsInt i cs) :
    ∀ c ∈ cs, Binary64.isLiteralChar c = true := by
  have digits {ds : List Char} {n : Nat} (numeral : IsNumeral ds n) :
      ∀ c ∈ ds, Binary64.isLiteralChar c = true :=
    fun c inside => Binary64.isLiteralChar_of_isDigit (List.all_eq_true.mp numeral.digits c inside)
  cases h with
  | plain numeral => exact digits numeral
  | plus numeral | minus numeral => exact List.forall_mem_cons.mpr ⟨by decide, digits numeral⟩

end ClusterWatch.Decimal

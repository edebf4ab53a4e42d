/-
# How a date may be spelled

Dates are written in one way and read in many.  `Date.Spells` says which texts are read as a date:
blanks in front of each number, zeros in front of a number or none, as many digits of a year as one
likes if it has a sign, and four at most if it has none.  What is read is what is spelled
(`read?_eq_some_iff`), so a text spells one date at most, and a date as it is written is among the
texts that spell it (`spells_toList`).
-/
import ClusterWatch.Proofs.Calendar
import ClusterWatch.Proofs.Number.Numeral
import ClusterWatch.Proofs.Text.Trimming

namespace ClusterWatch

/-! ## Numbers -/

/-- A text that does not go on with a digit. -/
def EndsNumber (r : List Char) : Prop := ∀ c ∈ r.head?, Text.isDigit c = false

theorem takeWhile_isDigit_append {ds r : List Char} (digits : ds.all Text.isDigit = true)
    (ends : EndsNumber r) : (ds ++ r).takeWhile Text.isDigit = ds := by
  rw [List.takeWhile_append_of_pos (List.all_eq_true.mp digits)]
  cases r with
  | nil => simp
  | cons c r => simp [ends c rfl]

namespace Date

open Decimal (IsNumeral)

theorem exists_of_takeNumber? {most n : Nat} {cs r : List Char}
    (taken : takeNumber? most cs = some (n, r)) :
    ∃ ds, cs = ds ++ r ∧ IsNumeral ds n ∧ ds.length ≤ most := by
  obtain ⟨_, read, same⟩ := Option.map_eq_some_iff.mp taken
  obtain ⟨rfl, rfl⟩ := Prod.mk.inj same
  have front : (cs.take most).takeWhile Text.isDigit <+: cs :=
    (List.takeWhile_prefix _).trans (List.take_prefix ..)
  refine ⟨_, (List.prefix_iff_eq_append.mp front).symm,
    (Decimal.readDigits?_eq_some_iff ..).mp read, ?_⟩
  exact Nat.le_trans (List.takeWhile_prefix _).length_le (List.length_take_le ..)

theorem takeNumber?_append {most n : Nat} {ds r : List Char} (numeral : IsNumeral ds n)
    (short : ds.length ≤ most) (ends : EndsNumber r) : takeNumber? most (ds ++ r) = some (n, r) := by
  have run : ((ds ++ r).take most).takeWhile Text.isDigit = ds := by
    have later : EndsNumber (r.take (most - ds.length)) := by
      intro c head
      cases r with
      | nil => simp at head
      | cons d r =>
          cases room : most - ds.length with
          | zero => simp [room] at head
          | succ k => exact ends c (by simpa [room] using head)
    rw [List.take_append, List.take_of_length_le short]
    exact takeWhile_isDigit_append numeral.digits later
  simp only [takeNumber?, run, (Decimal.readDigits?_eq_some_iff ds n).mpr numeral,
    Option.map_some, List.drop_left]

/-! ## Years -/

inductive SpellsYear : Int → List Char → Prop
  | plain {ds : List Char} {n : Nat} : IsNumeral ds n → ds.length ≤ 4 → SpellsYear n ds
  | plus {ds : List Char} {n : Nat} : IsNumeral ds n → SpellsYear n ('+' :: ds)
  | minus {ds : List Char} {n : Nat} : IsNumeral ds n → SpellsYear (-n) ('-' :: ds)

theorem exists_of_takeYear? {year : Int} {cs r : List Char}
    (taken : takeYear? cs = some (year, r)) : ∃ ys, cs = ys ++ r ∧ SpellsYear year ys := by
  unfold takeYear? at taken
  split at taken
  all_goals
    obtain ⟨⟨n, rest⟩, number, same⟩ := Option.map_eq_some_iff.mp taken
    obtain ⟨rfl, rfl⟩ := Prod.mk.inj same
    obtain ⟨ds, split, numeral, short⟩ := exists_of_takeNumber? number
  · exact ⟨'-' :: ds, by rw [split]; rfl, .minus numeral⟩
  · exact ⟨'+' :: ds, by rw [split]; rfl, .plus numeral⟩
  · exact ⟨ds, split, .plain numeral short⟩

theorem takeYear?_append {year : Int} {ys r : List Char} (spells : SpellsYear year ys)
    (ends : EndsNumber r) : takeYear? (ys ++ r) = some (year, r) := by
  cases spells with
  | plain numeral short =>
      obtain ⟨c, more, rfl, -, plus, minus⟩ := numeral.exists_cons
      unfold takeYear?
      split
      · next sign => exact absurd (List.cons.inj sign).1 minus
      · next sign => exact absurd (List.cons.inj sign).1 plus
      · rw [takeNumber?_append numeral short ends]
        rfl
  | plus numeral | minus numeral =>
      rw [List.cons_append, takeYear?, takeNumber?_append numeral (by simp) ends]
      rfl

/-! ## Dates -/

inductive Spells (d : Date) : List Char → Prop
  | intro {b b' b'' ys ms ds : List Char} : b.all Text.isBlank = true → SpellsYear d.year ys →
      b'.all Text.isBlank = true → IsNumeral ms d.month → ms.length ≤ 2 →
      b''.all Text.isBlank = true → IsNumeral ds d.day → ds.length ≤ 2 → d.isValid = true →
      Spells d (b ++ (ys ++ '-' :: (b' ++ (ms ++ '-' :: (b'' ++ ds)))))

theorem takeHyphen?_eq_some_iff {cs r : List Char} : takeHyphen? cs = some r ↔ cs = '-' :: r := by
  unfold takeHyphen?
  split <;> simp_all

theorem spells_of_read? {cs : List Char} {d : Date} (read : read? cs = some d) : d.Spells cs := by
  simp only [read?, Option.bind_eq_bind, Option.bind_eq_some_iff, Prod.exists,
    takeHyphen?_eq_some_iff] at read
  obtain ⟨year, r, hyear, r, rfl, month, s, hmonth, s, rfl, day, t, hday, same⟩ := read
  obtain ⟨b, blank, split⟩ := Text.exists_blanks_dropBlanks cs
  obtain ⟨ys, years, spellsYear⟩ := exists_of_takeYear? hyear
  obtain ⟨b', blank', split'⟩ := Text.exists_blanks_dropBlanks r
  obtain ⟨ms, months, numeral, short⟩ := exists_of_takeNumber? hmonth
  obtain ⟨b'', blank'', split''⟩ := Text.exists_blanks_dropBlanks s
  obtain ⟨ds, days, numeral', short'⟩ := exists_of_takeNumber? hday
  split at same
  · next whole =>
    cases same
    simp only [Bool.and_eq_true, List.isEmpty_iff] at whole
    obtain ⟨rfl, valid⟩ := whole
    rw [split, years, split', months, split'', days, List.append_nil]
    exact .intro blank spellsYear blank' numeral short blank'' numeral' short' valid
  · cases same

theorem dropBlanks_blanks_append {b cs : List Char} (blank : b.all Text.isBlank = true)
    (solid : ∀ c ∈ cs.head?, Text.isBlank c = false) : Text.dropBlanks (b ++ cs) = cs := by
  rw [Text.dropBlanks_append blank, Text.dropBlanks_eq_self solid]

theorem not_isBlank_head?_numeral {ds : List Char} {n : Nat} (numeral : IsNumeral ds n)
    (r : List Char) : ∀ c ∈ (ds ++ r).head?, Text.isBlank c = false := by
  obtain ⟨d, more, rfl, -⟩ := numeral.exists_cons
  intro c head
  cases head
  exact numeral.solid d List.mem_cons_self

theorem not_isBlank_head?_year {year : Int} {ys : List Char} (spells : SpellsYear year ys)
    (r : List Char) : ∀ c ∈ (ys ++ r).head?, Text.isBlank c = false := by
  cases spells with
  | plain numeral _ => exact not_isBlank_head?_numeral numeral r
  | plus | minus =>
      intro c head
      cases head
      decide

theorem endsNumber_hyphen (r : List Char) : EndsNumber ('-' :: r) := by
  intro c head
  cases head
  decide

theorem read?_of_spells {cs : List Char} {d : Date} (spells : d.Spells cs) : read? cs = some d := by
  obtain ⟨blank, year, blank', month, short, blank'', day, short', valid⟩ := spells
  have last := takeNumber?_append day short' (r := []) (fun _ head => by cases head)
  rw [List.append_nil] at last
  have start := not_isBlank_head?_numeral day []
  rw [List.append_nil] at start
  simp only [read?, dropBlanks_blanks_append blank (not_isBlank_head?_year year _),
    takeYear?_append year (endsNumber_hyphen _), takeHyphen?,
    dropBlanks_blanks_append blank' (not_isBlank_head?_numeral month _),
    takeNumber?_append month short (endsNumber_hyphen _),
    dropBlanks_blanks_append blank'' start, last, valid, Option.bind_eq_bind, Option.bind_some,
    List.isEmpty_nil, Bool.and_self, if_true]

/-- Reading finds the date that a text spells. -/
theorem read?_eq_some_iff {cs : List Char} {d : Date} : read? cs = some d ↔ d.Spells cs :=
  ⟨spells_of_read?, read?_of_spells⟩

theorem Spells.unique {cs : List Char} {d d' : Date} (h : d.Spells cs) (h' : d'.Spells cs) :
    d = d' := by
  have read := read?_of_spells h
  rw [read?_of_spells h'] at read
  exact (Option.some.inj read).symm

/-! ## Dates as they are written -/

theorem isNumeral_padded (width n : Nat) : IsNumeral (padded width n) n := by
  refine ⟨?_, ?_, ?_⟩
  · simp [padded, Decimal.digits_ne_nil]
  · rw [padded, List.all_append, Decimal.all_isDigit_digits, List.all_replicate]
    simp [Text.isDigit]
  · rw [padded, Decimal.value_zeros_append, Decimal.value_digits]

theorem spellsYear_yearDigits (year : Int) : SpellsYear year (yearDigits year) := by
  unfold yearDigits
  split
  · next plain =>
    have digits := SpellsYear.plain (isNumeral_padded 4 year.toNat)
      (length_padded_le (by decide) (by omega) (by decide))
    rwa [Int.toNat_of_nonneg plain.1] at digits
  · split
    · next below =>
      have digits := SpellsYear.minus (isNumeral_padded 4 year.natAbs)
      have same : -(year.natAbs : Int) = year := by omega
      rwa [same] at digits
    · next above =>
      have digits := SpellsYear.plus (isNumeral_padded 4 year.natAbs)
      have same : (year.natAbs : Int) = year := by omega
      rwa [same] at digits

theorem spells_toList {d : Date} (valid : d.isValid = true) : d.Spells d.toList := by
  have isDay := isDay_of_isValid valid
  have month : (padded 2 d.month).length ≤ 2 := by
    have twelve := isDay.month_mem.2
    exact length_padded_le (by decide) (by omega) (by decide)
  have day : (padded 2 d.day).length ≤ 2 := by
    have days := isDay.last
    have most := daysInMonth_le d.year d.month
    exact length_padded_le (by decide) (by omega) (by decide)
  have hnone : ([] : List Char).all Text.isBlank = true := rfl
  have spells := Spells.intro hnone (spellsYear_yearDigits d.year) hnone
    (isNumeral_padded 2 d.month) month hnone (isNumeral_padded 2 d.day) day valid
  simpa [toList] using spells

theorem width_le_length_padded (width n : Nat) : width ≤ (padded width n).length := by
  simp only [padded, List.length_append, List.length_replicate]
  omega

theorem ten_le_length_toList (d : Date) : 10 ≤ d.toList.length := by
  have year : 4 ≤ (yearDigits d.year).length := by
    unfold yearDigits
    split
    · exact width_le_length_padded ..
    · exact Nat.le_succ_of_le (width_le_length_padded ..)
  have month := width_le_length_padded 2 d.month
  have day := width_le_length_padded 2 d.day
  simp only [toList, List.length_append, List.length_cons]
  omega

end Date
end ClusterWatch

/-
# Counting days

`Date.dayNumber` counts days through years that begin in March.  The calendar itself knows nothing of
that: the date a day later is found from the lengths of the months (`Date.next`).  The number of the
next date is one more, and no two dates have one number, so the difference of two numbers is the way
in days from one date to the other (`iterate_next_eq_iff`).

A date is a `marchYear` and a day in it.  What makes this convenient is that the leap day comes
last, so the days before a month do not depend on the year (`monthFromMarch_eq`).
-/
import ClusterWatch.Proofs.Report
import Mathlib.Logic.Function.Iterate

namespace ClusterWatch.Date

/-- A day of one of the months of a year, which may be any year. -/
structure IsDay (d : Date) : Prop where
  first : 1 ≤ d.day
  last : d.day ≤ daysInMonth d.year d.month

/-- The date a day later. -/
def next (d : Date) : Date :=
  if d.day < daysInMonth d.year d.month then { d with day := d.day + 1 }
  else if d.month < 12 then ⟨d.year, d.month + 1, 1⟩
  else ⟨d.year + 1, 1, 1⟩

theorem isDay_of_isValid {d : Date} (valid : d.isValid = true) : d.IsDay := by
  simp only [isValid, Bool.and_eq_true, decide_eq_true_eq] at valid
  exact ⟨valid.1.2, valid.2⟩

theorem daysInMonth_pos {year : Int} {month : Nat} (first : 1 ≤ month) (last : month ≤ 12) :
    0 < daysInMonth year month := by
  generalize same : daysInMonth year month = days
  unfold daysInMonth at same
  split at same
  all_goals lia

theorem IsDay.month_mem {d : Date} (h : d.IsDay) : 1 ≤ d.month ∧ d.month ≤ 12 := by
  have hsome : 0 < daysInMonth d.year d.month := Nat.lt_of_lt_of_le h.first h.last
  refine ⟨Nat.pos_of_ne_zero fun hnone => ?_, month_le_of_daysInMonth_pos hsome⟩
  rw [hnone] at hsome
  exact absurd hsome (Nat.lt_irrefl 0)

theorem isDay_next (d : Date) : d.next.IsDay := by
  unfold Date.next
  split
  · next more => exact ⟨Nat.le_add_left .., more⟩
  · split
    · next before => exact ⟨Nat.le_refl 1, daysInMonth_pos (Nat.le_add_left ..) before⟩
    · exact ⟨Nat.le_refl 1, daysInMonth_pos (Nat.le_refl 1) (Nat.le_add_left 1 11)⟩

/-! ## Years that begin in March -/

/-- The year that a date is in if years begin in March. -/
def marchYear (d : Date) : Int := if d.month ≤ 2 then d.year - 1 else d.year

def firstOfMarch (year : Int) : Int := 365 * year + year / 4 - year / 100 + year / 400 - 719468

/-- The days from the first of March to a date. -/
def dayOfMarchYear (d : Date) : Int := (153 * ((d.month + 9) % 12) + 2) / 5 + d.day - 1

theorem dayNumber_eq (d : Date) : d.dayNumber = firstOfMarch d.marchYear + d.dayOfMarchYear := by
  simp only [dayNumber, firstOfMarch, marchYear, dayOfMarchYear]
  generalize (if d.month ≤ 2 then d.year - 1 else d.year) = year
  omega

theorem firstOfMarch_succ (year : Int) :
    firstOfMarch (year + 1) = firstOfMarch year + if isLeap (year + 1) then 366 else 365 := by
  simp only [firstOfMarch, isLeap, Bool.and_eq_true, Bool.or_eq_true, beq_iff_eq, bne_iff_ne]
  split <;> omega

theorem firstOfMarch_mono {year year' : Int} (h : year ≤ year') :
    firstOfMarch year ≤ firstOfMarch year' := by
  simp only [firstOfMarch]
  omega

theorem dayOfMarchYear_mem {d : Date} (h : d.IsDay) :
    0 ≤ d.dayOfMarchYear ∧ d.dayOfMarchYear < if isLeap (d.marchYear + 1) then 366 else 365 := by
  obtain ⟨year, month, day⟩ := d
  obtain ⟨first, last⟩ := h
  simp only [dayOfMarchYear, marchYear, daysInMonth] at *
  split at last
  · -- The length of February goes by the year of the date, which is the one after its March.
    rw [if_pos (Nat.le_refl 2), Int.sub_add_cancel]
    lia
  all_goals split <;> lia

theorem monthFromMarch_eq {d : Date} (h : d.IsDay) :
    (5 * d.dayOfMarchYear + 2) / 153 = (d.month + 9) % 12 := by
  obtain ⟨year, month, day⟩ := d
  obtain ⟨first, last⟩ := h
  simp only [dayOfMarchYear, daysInMonth] at *
  split at last
  all_goals lia

/-! ## No two dates have one number -/

theorem dayNumber_lt_of_marchYear_lt {d e : Date} (hd : d.IsDay) (he : e.IsDay)
    (h : d.marchYear < e.marchYear) : d.dayNumber < e.dayNumber := by
  have within := (dayOfMarchYear_mem hd).2
  have after := (dayOfMarchYear_mem he).1
  have later := firstOfMarch_mono (Int.add_one_le_of_lt h)
  rw [firstOfMarch_succ] at later
  rw [dayNumber_eq, dayNumber_eq]
  omega

theorem eq_of_dayNumber_eq {d e : Date} (hd : d.IsDay) (he : e.IsDay)
    (h : d.dayNumber = e.dayNumber) : d = e := by
  have years : d.marchYear = e.marchYear := by
    rcases Int.lt_trichotomy d.marchYear e.marchYear with less | same | more
    · exact absurd h (Int.ne_of_lt (dayNumber_lt_of_marchYear_lt hd he less))
    · exact same
    · exact absurd h.symm (Int.ne_of_lt (dayNumber_lt_of_marchYear_lt he hd more))
  have days : d.dayOfMarchYear = e.dayOfMarchYear := by
    rw [dayNumber_eq, dayNumber_eq, years] at h
    exact Int.add_left_cancel h
  have months : d.month = e.month := by
    have fromMarch := monthFromMarch_eq hd
    rw [days, monthFromMarch_eq he] at fromMarch
    have inD := hd.month_mem
    have inE := he.month_mem
    omega
  obtain ⟨year, month, day⟩ := d
  obtain ⟨year', month', day'⟩ := e
  simp only [marchYear, dayOfMarchYear] at years days months
  subst months
  have sameYear : year = year' := by split at years <;> omega
  have sameDay : day = day' := by omega
  rw [sameYear, sameDay]

/-! ## The next date has the next number -/

theorem dayNumber_first_of_month (year : Int) {month : Nat} (first : 1 ≤ month)
    (before : month < 12) :
    (⟨year, month + 1, 1⟩ : Date).dayNumber =
      (⟨year, month, daysInMonth year month⟩ : Date).dayNumber + 1 := by
  have march := firstOfMarch_succ (year - 1)
  rw [Int.sub_add_cancel] at march
  generalize same : daysInMonth year month = days
  unfold daysInMonth at same
  simp only [dayNumber_eq, marchYear, dayOfMarchYear]
  split at same
  all_goals lia

theorem dayNumber_next {d : Date} (h : d.IsDay) : d.next.dayNumber = d.dayNumber + 1 := by
  have within := h.month_mem
  obtain ⟨year, month, day⟩ := d
  unfold Date.next
  split
  · simp only [dayNumber_eq, marchYear, dayOfMarchYear]
    omega
  · next full =>
    obtain rfl : day = daysInMonth year month :=
      Nat.le_antisymm h.last (Nat.le_of_not_lt full)
    split
    · next before => exact dayNumber_first_of_month year within.1 before
    · next december =>
      obtain rfl : month = 12 := Nat.le_antisymm within.2 (Nat.le_of_not_lt december)
      simp [dayNumber_eq, marchYear, dayOfMarchYear, daysInMonth]
      omega

theorem iterate_next {d : Date} (h : d.IsDay) (k : Nat) :
    (Date.next^[k] d).IsDay ∧ (Date.next^[k] d).dayNumber = d.dayNumber + k := by
  induction k with
  | zero => exact ⟨h, (Int.add_zero _).symm⟩
  | succ k ih =>
      rw [Function.iterate_succ_apply', dayNumber_next ih.1, ih.2]
      exact ⟨isDay_next _, by omega⟩

/-- The way from one date to another is the difference of their numbers. -/
theorem iterate_next_eq_iff {d e : Date} (hd : d.IsDay) (he : e.IsDay) (k : Nat) :
    Date.next^[k] d = e ↔ d.dayNumber + k = e.dayNumber := by
  obtain ⟨isDay, number⟩ := iterate_next hd k
  rw [← number]
  exact ⟨fun same => same ▸ rfl, eq_of_dayNumber_eq isDay he⟩

theorem exists_iterate_next_iff {d e : Date} (hd : d.IsDay) (he : e.IsDay) (n : Nat) :
    (∃ k, n < k ∧ Date.next^[k] d = e) ↔ d.dayNumber < e.dayNumber - n := by
  simp only [iterate_next_eq_iff hd he]
  constructor
  · rintro ⟨k, more, way⟩
    omega
  · intro less
    exact ⟨(e.dayNumber - d.dayNumber).toNat, by omega, by omega⟩

end ClusterWatch.Date

/-
# What a clean-up deletes

A log file is known by its name.  The log is written to one file a day, which has the date as dates
are written behind its name (`fileName`); a clean-up takes a name for that of a log file if a date is
spelled there (`IsLogFile`), and dates are spelled in more ways than they are written.  So a clean-up
deletes all files of the log that are old enough, and any other file whose name tells an old date in
another way (`oddly_spelled_file_is_deleted`).

How old a file is goes by the calendar: more than a week has passed since a date if it takes more
than seven steps from one date to the next to come from there to the present one.
-/
import ClusterWatch.LogRetention
import ClusterWatch.Proofs.Calendar.Spelling

namespace ClusterWatch

theorem Text.dropLeading?_eq_some_iff {front cs r : List Char} :
    dropLeading? front cs = some r ↔ cs = front ++ r := by
  induction front generalizing cs with
  | nil => simp [dropLeading?]
  | cons p front ih =>
      cases cs with
      | nil => simp [dropLeading?]
      | cons c cs =>
          simp only [dropLeading?, List.cons_append, List.cons.injEq, eq_comm (a := p)]
          split
          · next same => simp [same, ih]
          · next differ => simp [differ]

namespace LogRetention

/-! ## Names of log files -/

/-- A name that tells the date of a log file. -/
def IsLogFile (name : String) (d : Date) : Prop :=
  ∃ cs, d.Spells cs ∧ name = baseName ++ "." ++ String.ofList cs

theorem dateOf?_eq_some_iff {name : String} {d : Date} :
    dateOf? name = some d ↔ IsLogFile name d := by
  simp only [dateOf?, Option.bind_eq_some_iff, Text.dropLeading?_eq_some_iff,
    Date.read?_eq_some_iff, IsLogFile]
  constructor
  · rintro ⟨cs, split, spells⟩
    refine ⟨cs, spells, String.toList_inj.mp ?_⟩
    rw [split]
    simp
  · rintro ⟨cs, spells, rfl⟩
    exact ⟨cs, by simp, spells⟩

theorem IsLogFile.unique {name : String} {d d' : Date} (h : IsLogFile name d)
    (h' : IsLogFile name d') : d = d' := by
  have date := dateOf?_eq_some_iff.mpr h
  rw [dateOf?_eq_some_iff.mpr h'] at date
  exact (Option.some.inj date).symm

theorem isLogFile_fileName {d : Date} (valid : d.isValid = true) : IsLogFile (fileName d) d :=
  ⟨d.toList, Date.spells_toList valid, rfl⟩

/-! ## Old files -/

/-- A file whose name tells a date more than seven days ago. -/
def Outdated (today : Date) (e : Entry) : Prop :=
  e.isFile = true ∧ ∃ d, IsLogFile e.name d ∧ ∃ k, 7 < k ∧ Date.next^[k] d = today

theorem IsLogFile.isDay {name : String} {d : Date} (h : IsLogFile name d) : d.IsDay := by
  obtain ⟨cs, ⟨_, _, _, _, _, _, _, _, valid⟩, -⟩ := h
  exact Date.isDay_of_isValid valid

theorem isExpired_iff {today : Date} (valid : today.isValid = true) (e : Entry) :
    isExpired today e = true ↔ Outdated today e := by
  simp only [isExpired, Bool.and_eq_true, Option.any_eq_true, dateOf?_eq_some_iff,
    decide_eq_true_eq, Outdated]
  refine and_congr_right fun _ => exists_congr fun d => and_congr_right fun file => ?_
  exact (Date.exists_iterate_next_iff file.isDay (Date.isDay_of_isValid valid) 7).symm

theorem outdated_fileName_iff {today d : Date} (valid : d.isValid = true) :
    Outdated today ⟨fileName d, true⟩ ↔ ∃ k, 7 < k ∧ Date.next^[k] d = today := by
  constructor
  · rintro ⟨-, d', file, past⟩
    rwa [(isLogFile_fileName valid).unique file]
  · exact fun past => ⟨rfl, d, isLogFile_fileName valid, past⟩

/-- A clean-up deletes those of the old files that can be deleted and leaves all else in place.  The
file that the log had on a day is one of them if and only if more than seven days have passed since
that day.  The next clean-up on the same date has nothing left to do. -/
theorem prune_deletes_outdated {today : Date} (valid : today.isValid = true)
    (deletes : String → Bool) (entries : List Entry) :
    (∃ stays : Entry → Bool, prune deletes today entries = entries.filter stays ∧
        ∀ e, stays e = true ↔ ¬(Outdated today e ∧ deletes e.name = true)) ∧
      (∀ d, d.isValid = true →
        (Outdated today ⟨fileName d, true⟩ ↔ ∃ k, 7 < k ∧ Date.next^[k] d = today)) ∧
      prune deletes today (prune deletes today entries) = prune deletes today entries := by
  refine ⟨⟨_, rfl, fun e => ?_⟩, fun d => outdated_fileName_iff, ?_⟩
  · rw [Bool.not_eq_true', ← Bool.not_eq_true, Bool.and_eq_true, isExpired_iff valid]
  · simp [prune]

/-- Files of eight and of seven days ago over a leap day, and a directory with the name of a file. -/
def overLeapDay : List Entry :=
  [⟨fileName ⟨2024, 2, 26⟩, true⟩, ⟨fileName ⟨2024, 2, 27⟩, true⟩, ⟨fileName ⟨2024, 1, 1⟩, false⟩]

/-- The older file goes; the other one is just young enough, and a directory is no file. -/
theorem prune_overLeapDay :
    (⟨2024, 3, 5⟩ : Date).isValid = true ∧
      prune (fun _ => true) ⟨2024, 3, 5⟩ overLeapDay =
        [⟨fileName ⟨2024, 2, 27⟩, true⟩, ⟨fileName ⟨2024, 1, 1⟩, false⟩] := by
  have valid : (⟨2024, 3, 5⟩ : Date).isValid = true := by decide
  obtain ⟨⟨stays, left, stays_iff⟩, files, -⟩ :=
    prune_deletes_outdated valid (fun _ => true) overLeapDay
  have goes : stays ⟨fileName ⟨2024, 2, 26⟩, true⟩ = false := by
    have old := (files ⟨2024, 2, 26⟩ (by decide)).mpr ⟨8, by decide, by decide⟩
    exact Bool.eq_false_iff.mpr fun kept => (stays_iff _).mp kept ⟨old, rfl⟩
  have young : stays ⟨fileName ⟨2024, 2, 27⟩, true⟩ = true := by
    refine (stays_iff _).mpr fun old => ?_
    have past := (files ⟨2024, 2, 27⟩ (by decide)).mp old.1
    rw [Date.exists_iterate_next_iff (Date.isDay_of_isValid (by decide))
      (Date.isDay_of_isValid valid)] at past
    revert past
    decide
  have directory : stays ⟨fileName ⟨2024, 1, 1⟩, false⟩ = true :=
    (stays_iff _).mpr fun old => Bool.noConfusion old.1.1
  refine ⟨valid, ?_⟩
  rw [left]
  simp [overLeapDay, goes, young, directory]

/-! ## Other spellings -/

/-- A file that is not that of any day is deleted, as its name can be read as that of an old one. -/
theorem oddly_spelled_file_is_deleted :
    (∀ d, fileName d ≠ "kubedeck.log.2000-1-1") ∧
      prune (fun _ => true) ⟨2024, 5, 1⟩ [⟨"kubedeck.log.2000-1-1", true⟩] = [] := by
  constructor
  · intro d same
    have lengths := congrArg String.length same
    have date := d.ten_le_length_toList
    have short : "kubedeck.log.2000-1-1".length = 21 := by decide
    have front : (baseName ++ ".").length = 13 := by decide
    rw [short, fileName, String.length_append, front, String.length_ofList] at lengths
    omega
  · decide

end LogRetention
end ClusterWatch

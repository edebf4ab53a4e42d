/-
# The header of a message

A message begins with its header, which holds a number and a time and no names.  Both are short: a
count of 64 bits has twenty digits at most, and no year that dates are kept for has more than six
and a sign.  So the header is far shorter than the messages that the chat service takes.
-/
import ClusterWatch.Report

namespace ClusterWatch

/-! ## The text of a date and of a time -/

theorem Decimal.length_digits_le {n k : Nat} (positive : 0 < k) (less : n < 10 ^ k) :
    (Decimal.digits n).length ≤ k :=
  (Nat.length_toDigits_le_iff (by decide) positive).mpr less

namespace Date

theorem length_padded_le {width n k : Nat} (positive : 0 < k) (less : n < 10 ^ k)
    (narrow : width ≤ k) : (padded width n).length ≤ k := by
  have digits := Decimal.length_digits_le positive less
  simp only [padded, List.length_append, List.length_replicate]
  omega

theorem length_yearDigits_le {year : Int} (least : -262143 ≤ year) (most : year ≤ 262142) :
    (yearDigits year).length ≤ 7 := by
  unfold yearDigits
  split
  · have plain : (padded 4 year.toNat).length ≤ 4 :=
      length_padded_le (by decide) (by omega) (by decide)
    omega
  · have signed : (padded 4 year.natAbs).length ≤ 6 :=
      length_padded_le (by decide) (by omega) (by decide)
    rw [List.length_cons]
    omega

theorem daysInMonth_le (year : Int) (month : Nat) : daysInMonth year month ≤ 31 := by
  unfold daysInMonth
  split <;> (try split) <;> decide

theorem month_le_of_daysInMonth_pos {year : Int} {month : Nat}
    (hsome : 0 < daysInMonth year month) : month ≤ 12 := by
  unfold daysInMonth at hsome
  split at hsome <;> first | decide | exact absurd hsome (by decide)

theorem length_toList_le {d : Date} (valid : d.isValid) : d.toList.length ≤ 13 := by
  simp only [isValid, yearRange, Bool.and_eq_true, decide_eq_true_eq] at valid
  obtain ⟨⟨⟨least, most⟩, first⟩, last⟩ := valid
  have year := length_yearDigits_le (of_decide_eq_true least) (of_decide_eq_true most)
  have month : (padded 2 d.month).length ≤ 2 := by
    have twelve := month_le_of_daysInMonth_pos (Nat.lt_of_lt_of_le first last)
    exact length_padded_le (by decide) (by omega) (by decide)
  have day : (padded 2 d.day).length ≤ 2 := by
    have days := daysInMonth_le d.year d.month
    exact length_padded_le (by decide) (by omega) (by decide)
  simp only [toList, List.length_append, List.length_cons]
  omega

end Date

theorem Instant.length_clockTime_le (t : Instant) : (Instant.clockTime t).length ≤ 8 := by
  have seconds : (t % dayMillis / 1000).toNat < 86400 := by
    simp only [dayMillis]
    omega
  simp only [clockTime, List.length_append, List.length_cons]
  generalize (t % dayMillis / 1000).toNat = s at seconds
  have hours : (Date.padded 2 (s / 3600)).length ≤ 2 :=
    Date.length_padded_le (by decide) (by omega) (by decide)
  have minutes : (Date.padded 2 (s / 60 % 60)).length ≤ 2 :=
    Date.length_padded_le (by decide) (by omega) (by decide)
  have rest : (Date.padded 2 (s % 60)).length ≤ 2 :=
    Date.length_padded_le (by decide) (by omega) (by decide)
  omega

namespace Report

/-! ## The header -/

/-- The lines of the header, each with its line break. -/
def header (count : Nat) (scannedAt : Instant) : String :=
  String.join ((headerLines count scannedAt).map (· ++ "\n"))

theorem text_eq (r : Recommendation) (scannedAt : Instant) :
    ∃ blocks, text r scannedAt = header r.flaggedCount scannedAt ++ blocks := by
  rw [text, lines, List.map_append, String.join_append]
  exact ⟨_, rfl⟩

theorem exists_title (r : Recommendation) (scannedAt : Instant) :
    ∃ rest, (text r scannedAt).toList = "*Kubernetes resource report*".toList ++ '\n' :: rest := by
  obtain ⟨blocks, same⟩ := text_eq r scannedAt
  have titled : (header r.flaggedCount scannedAt).toList =
      "*Kubernetes resource report*".toList ++ '\n' :: (String.join
        ((headerLines r.flaggedCount scannedAt).tail.map (· ++ "\n"))).toList := by
    simp [header, headerLines]
  exact ⟨_, by rw [same, String.toList_append, titled, List.append_assoc, List.cons_append]⟩

theorem exists_front_of_header {count : Nat} {scannedAt : Instant} (fits : count ≤ Decimal.maxU64)
    (valid : scannedAt.date.isValid) :
    ∃ front : List Char, (header count scannedAt).toList = front ++ ['C', '\n', '\n'] ∧
      front.length ≤ 150 := by
  have digits : (Decimal.digits count).length ≤ 20 :=
    Decimal.length_digits_le (by decide) (Nat.lt_of_le_of_lt fits (by decide))
  have date := Date.length_toList_le valid
  have clock := Instant.length_clockTime_le scannedAt
  refine ⟨"*Kubernetes resource report*\n\n*Detected:* ".toList ++ (Decimal.digits count ++
    (" workloads need attention\n*Scan time:* ".toList ++ (scannedAt.date.toList ++
      ' ' :: (scannedAt.clockTime ++ " UT".toList)))), ?_, ?_⟩
  · simp [header, headerLines, String.join, Instant.toMessageText, Decimal.ofNat]
  · simp only [String.reduceToList, List.cons_append, List.nil_append, List.length_cons,
      List.length_append, List.length_nil]
    omega

end Report
end ClusterWatch

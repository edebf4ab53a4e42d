/-
# Strings and numbers are read without looking further

A reader goes from left to right and does not look at what stands behind the value that it takes.
Where it stops before the end of a text, it stops at the same place with the same value when the
text goes on.  At the end of a text this holds of strings, which end by a mark of their own; a
number may go on there.

Loops are given as much fuel as there is text, so they are shown to do the same on more of both.
-/
import ClusterWatch.Proofs.Json.Scalars

namespace ClusterWatch.Json

/-! ## Blanks, marks and words -/

theorem skipSpace_append {cs r : List Char} {c : Char} (h : skipSpace cs = c :: r)
    (s : List Char) : skipSpace (cs ++ s) = c :: (r ++ s) := by
  rw [skipSpace] at h ⊢
  rw [List.dropWhile_append, h]
  rfl

theorem skipWord_append {word cs r : List Char} (h : skipWord word cs = .ok r) (s : List Char) :
    skipWord word (cs ++ s) = .ok (r ++ s) := by
  induction word generalizing cs with
  | nil => cases h; rfl
  | cons w word ih =>
      cases cs with
      | nil => cases h
      | cons c cs =>
          simp only [skipWord] at h
          split at h
          · rename_i same
            simpa [skipWord, same] using ih h
          · cases h

def Next.append : Next → List Char → Next
  | .close r, s => .close (r ++ s)
  | .element r, s => .element (r ++ s)

theorem next_append {closing : Char} {first : Bool} {cs : List Char} {n : Next}
    (h : next closing first cs = .ok n) (s : List Char) :
    next closing first (cs ++ s) = .ok (n.append s) := by
  unfold next at h ⊢
  split at h
  · cases h
  · rename_i c r front
    rw [skipSpace_append front s]
    dsimp only
    split at h
    · rename_i closes
      cases h
      rw [if_pos closes]
      rfl
    · rename_i goes_on
      rw [if_neg goes_on]
      split at h
      · rename_i first
        cases h
        rw [if_pos first]
        rfl
      · rename_i later
        rw [if_neg later]
        split at h
        · rename_i comma
          rw [if_pos comma]
          split at h
          · cases h
          · rename_i d r' front'
            rw [skipSpace_append front' s]
            dsimp only
            split at h
            · cases h
            · rename_i element
              cases h
              rw [if_neg element]
              rfl
        · cases h

theorem skipColon_append {cs r : List Char} (h : skipColon cs = .ok r) (s : List Char) :
    skipColon (cs ++ s) = .ok (r ++ s) := by
  unfold skipColon at h
  split at h
  · rename_i front
    cases h
    rw [skipColon, skipSpace_append front s]
    rfl
  · cases h

/-! ## Strings -/

namespace Quoted

theorem decode_append {cs r : List Char} {text : String} (h : decode cs = .ok (text, r))
    (s : List Char) : decode (cs ++ s) = .ok (text, r ++ s) := by
  unfold decode at h
  split at h
  · rename_i decoded
    cases h
    obtain ⟨raw, -, rfl, again⟩ := decodeFrom_eq_some decoded
    have whole := again (raw ++ '"' :: r ++ s).length (r ++ s) (by simp)
    rw [decode, List.append_assoc, List.cons_append] at *
    rw [whole]
  · cases h

theorem takeHex?_append {cs r : List Char} {n : Nat} (h : takeHex? cs = some (n, r))
    (s : List Char) : takeHex? (cs ++ s) = some (n, r ++ s) := by
  obtain ⟨front, rfl, -, anyRest⟩ := takeHex?_eq_some h
  rw [List.append_assoc]
  exact anyRest (r ++ s)

theorem skipChar?_append {cs r : List Char} (h : skipChar? cs = some r) (s : List Char) :
    skipChar? (cs ++ s) = some (r ++ s) := by
  cases cs with
  | nil => cases h
  | cons c cs =>
      simp only [skipChar?, List.cons_append] at h ⊢
      split at h
      · rename_i escape
        rw [if_pos escape]
        cases cs with
        | nil => cases h
        | cons e cs =>
            dsimp only [List.cons_append] at h ⊢
            split at h
            · rename_i hexadecimal
              obtain ⟨⟨n, r⟩, hex, rfl⟩ := Option.map_eq_some_iff.mp h
              rw [if_pos hexadecimal, takeHex?_append hex s]
              rfl
            · rename_i short
              obtain ⟨d, known, rfl⟩ := Option.map_eq_some_iff.mp h
              rw [if_neg short, known]
              rfl
      · rename_i plain
        rw [if_neg plain]
        split at h
        · cases h
        · rename_i printable
          cases h
          rw [if_neg printable]

theorem skipFrom_append {fuel fuel' : Nat} {cs r : List Char} (h : skipFrom fuel cs = .ok r)
    (enough : fuel ≤ fuel') (s : List Char) : skipFrom fuel' (cs ++ s) = .ok (r ++ s) := by
  induction fuel generalizing fuel' cs with
  | zero => cases h
  | succ fuel ih =>
      obtain ⟨more, rfl⟩ := Nat.exists_eq_add_of_le' enough
      cases cs with
      | nil => cases h
      | cons c cs =>
          by_cases quote : c = '"'
          · subst quote
            cases h
            rfl
          · simp only [List.cons_append, skipFrom, List.cons.injEq, quote,
              false_and, imp_false, not_false_eq_true, implies_true] at h ⊢
            split at h
            · rename_i skipped
              have taken := skipChar?_append skipped s
              rw [List.cons_append] at taken
              rw [taken]
              exact ih h (Nat.le_add_left ..)
            · cases h

theorem skip_append {cs r : List Char} (h : skip cs = .ok r) (s : List Char) :
    skip (cs ++ s) = .ok (r ++ s) :=
  skipFrom_append h (by simp) s

end Quoted

/-! ## Numbers -/

namespace Numeral

theorem digits_append {cs r : List Char} {c : Char} (h : cs.dropWhile Text.isDigit = c :: r)
    (s : List Char) : (cs ++ s).takeWhile Text.isDigit = cs.takeWhile Text.isDigit ∧
      (cs ++ s).dropWhile Text.isDigit = c :: (r ++ s) := by
  have whole := congrArg List.length (List.takeWhile_append_dropWhile (p := Text.isDigit) (l := cs))
  rw [h, List.length_append, List.length_cons] at whole
  constructor
  · rw [List.takeWhile_append, if_neg (by omega)]
  · rw [List.dropWhile_append, h]
    rfl

theorem drop_takeWhile (cs : List Char) :
    cs.drop (cs.takeWhile Text.isDigit).length = cs.dropWhile Text.isDigit := by
  have whole := List.takeWhile_append_dropWhile (p := Text.isDigit) (l := cs)
  have cut : (cs.takeWhile Text.isDigit ++ cs.dropWhile Text.isDigit).drop
      (cs.takeWhile Text.isDigit).length = cs.dropWhile Text.isDigit :=
    List.drop_left
  rwa [whole] at cut

/-- The number whose exponent's digits stand in front of a text. -/
def withExponent (negative : Bool) (significand : Nat) (start : Int) (below : Bool)
    (cs : List Char) : Except Fault (Binary64 × List Char) :=
  let ds := cs.takeWhile Text.isDigit
  if ds.isEmpty then .error .malformed
  else do
    let x ← ofExponent negative significand start below (Decimal.value ds)
    return (x, cs.drop ds.length)

variable {negative below : Bool} {significand : Nat} {start : Int} {x : Binary64} {n : Numeral}
  {cs r : List Char}

theorem withExponent_append
    (h : withExponent negative significand start below cs = .ok (x, r)) (more : r ≠ [])
    (s : List Char) :
    withExponent negative significand start below (cs ++ s) = .ok (x, r ++ s) := by
  simp only [withExponent, drop_takeWhile] at h ⊢
  split at h
  · cases h
  · rename_i hsome
    obtain ⟨y, value, same⟩ := exists_of_bind_eq_ok h
    cases same
    obtain ⟨d, rest, behind⟩ := List.exists_cons_of_ne_nil more
    obtain ⟨digits, left⟩ := digits_append behind s
    rw [digits, left, if_neg hsome, value, behind]
    rfl

theorem readExponent_letter (negative : Bool) (significand : Nat) (start : Int) {c : Char}
    (letter : c = 'e' ∨ c = 'E') (d : Char) (cs : List Char) :
    ∃ below front rest, d :: cs = front ++ rest ∧ ∀ s,
      readExponent negative significand start (c :: (front ++ (rest ++ s))) =
        withExponent negative significand start below (rest ++ s) := by
  by_cases plus : d = '+'
  · exact ⟨false, ['+'], cs, by rw [plus]; rfl,
      fun s => by simp [readExponent, letter, withExponent]⟩
  · by_cases minus : d = '-'
    · exact ⟨true, ['-'], cs, by rw [minus]; rfl,
        fun s => by simp [readExponent, letter, withExponent]⟩
    · exact ⟨false, [], d :: cs, rfl,
        fun s => by simp [readExponent, letter, withExponent, plus, minus]⟩

theorem readExponent_append (h : readExponent negative significand start cs = .ok (x, r))
    (more : r ≠ []) (s : List Char) :
    readExponent negative significand start (cs ++ s) = .ok (x, r ++ s) := by
  cases cs with
  | nil =>
      obtain ⟨y, -, same⟩ := exists_of_bind_eq_ok h
      cases same
      exact absurd rfl more
  | cons c cs =>
      by_cases letter : c = 'e' ∨ c = 'E'
      · cases cs with
        | nil =>
            simp only [readExponent, if_pos letter] at h
            cases h
        | cons d cs =>
            obtain ⟨below, front, rest, cut, again⟩ :=
              readExponent_letter negative significand start letter d cs
            have now := again []
            rw [List.append_nil, ← cut, h] at now
            rw [List.cons_append, cut, List.append_assoc, again s]
            exact withExponent_append now.symm more s
      · simp only [readExponent, List.cons_append, if_neg letter] at h ⊢
        obtain ⟨y, value, same⟩ := exists_of_bind_eq_ok h
        cases same
        rw [value]
        rfl

/-- The number whose digits in front have been taken in, from what follows them. -/
def behindDigits (negative : Bool) (significand : Nat) (left : List Char) :
    List Char → Except Fault (Numeral × List Char)
  | '.' :: r =>
      let fs := r.takeWhile Text.isDigit
      if fs = [] then .error .malformed
      else do
        let (significand, unused) := takeIn significand fs
        let start : Int := (left.length : Int) - (fs.length - unused.length : Nat)
        let (x, r) ← readExponent negative significand start (r.dropWhile Text.isDigit)
        return (.real x, r)
  | c :: r =>
      if c = 'e' ∨ c = 'E' ∨ left ≠ [] then do
        let (x, r) ← readExponent negative significand left.length (c :: r)
        return (.real x, r)
      else .ok (ofWhole negative significand, c :: r)
  | [] =>
      if left ≠ [] then do
        let x ← ofParts negative significand left.length
        return (.real x, [])
      else .ok (ofWhole negative significand, [])

theorem readUnsigned_eq (negative : Bool) (cs : List Char) :
    readUnsigned negative cs =
      let ds := cs.takeWhile Text.isDigit
      if ds = [] ∨ (ds.head? = some '0' ∧ ds ≠ ['0']) then .error .malformed
      else behindDigits negative (takeIn 0 ds).1 (takeIn 0 ds).2 (cs.dropWhile Text.isDigit) :=
  rfl

theorem behindDigits_nil {left : List Char}
    (h : behindDigits negative significand left [] = .ok (n, r)) : r = [] := by
  simp only [behindDigits] at h
  split at h
  · obtain ⟨x, -, same⟩ := exists_of_bind_eq_ok h
    cases same
    rfl
  · cases h
    rfl

theorem behindDigits_append {left : List Char}
    (h : behindDigits negative significand left cs = .ok (n, r)) (more : r ≠ []) (s : List Char) :
    behindDigits negative significand left (cs ++ s) = .ok (n, r ++ s) := by
  cases cs with
  | nil => exact absurd (behindDigits_nil h) more
  | cons c cs =>
      by_cases point : c = '.'
      · subst point
        simp only [behindDigits, List.cons_append] at h ⊢
        split at h
        · cases h
        · rename_i hsome
          obtain ⟨⟨x, r'⟩, scaled, same⟩ := exists_of_bind_eq_ok h
          cases same
          cases fraction : cs.dropWhile Text.isDigit with
          | nil =>
              rw [fraction] at scaled
              obtain ⟨y, -, same⟩ := exists_of_bind_eq_ok scaled
              cases same
              exact absurd rfl more
          | cons d rest =>
              obtain ⟨digits, behind⟩ := digits_append fraction s
              rw [fraction] at scaled
              have scaled' := readExponent_append scaled more s
              rw [List.cons_append] at scaled'
              rw [digits, behind, if_neg hsome, scaled']
              rfl
      · simp only [behindDigits, List.cons_append] at h ⊢
        split at h
        · rename_i scales
          obtain ⟨⟨x, r'⟩, scaled, same⟩ := exists_of_bind_eq_ok h
          cases same
          have scaled' := readExponent_append scaled more s
          rw [List.cons_append] at scaled'
          rw [if_pos scales, scaled']
          rfl
        · rename_i whole
          cases h
          rw [if_neg whole]
          rfl

theorem readUnsigned_append (h : readUnsigned negative cs = .ok (n, r)) (more : r ≠ [])
    (s : List Char) : readUnsigned negative (cs ++ s) = .ok (n, r ++ s) := by
  simp only [readUnsigned_eq] at h ⊢
  split at h
  · cases h
  · rename_i good
    cases behind : cs.dropWhile Text.isDigit with
    | nil =>
        rw [behind] at h
        exact absurd (behindDigits_nil h) more
    | cons c rest =>
        obtain ⟨digits, left⟩ := digits_append behind s
        rw [behind] at h
        rw [digits, left, if_neg good]
        exact behindDigits_append h more s

theorem read_append (h : read cs = .ok (n, r)) (more : r ≠ []) (s : List Char) :
    read (cs ++ s) = .ok (n, r ++ s) := by
  cases cs with
  | nil => cases h
  | cons c cs =>
      by_cases minus : c = '-'
      · subst minus
        have unsigned : readUnsigned true cs = .ok (n, r) := h
        exact readUnsigned_append unsigned more s
      · simp only [read, List.cons_append, List.cons.injEq, minus, false_and, imp_false,
          not_false_eq_true, implies_true] at h ⊢
        exact readUnsigned_append h more s

theorem skipDigits_append (h : skipDigits cs = .ok r) (more : r ≠ []) (s : List Char) :
    skipDigits (cs ++ s) = .ok (r ++ s) := by
  simp only [skipDigits] at h ⊢
  split at h
  · cases h
  · rename_i hsome
    cases h
    obtain ⟨d, rest, behind⟩ := List.exists_cons_of_ne_nil more
    obtain ⟨digits, left⟩ := digits_append behind s
    rw [digits, left, if_neg hsome, behind]
    rfl

theorem skipFraction_append (h : skipFraction cs = .ok r) (more : r ≠ []) (s : List Char) :
    skipFraction (cs ++ s) = .ok (r ++ s) := by
  cases cs with
  | nil =>
      cases h
      exact absurd rfl more
  | cons c cs =>
      by_cases point : c = '.'
      · subst point
        have digits : skipDigits cs = .ok r := h
        exact skipDigits_append digits more s
      · simp only [skipFraction, List.cons_append, List.cons.injEq, point, false_and, imp_false,
          not_false_eq_true, implies_true] at h ⊢
        cases h
        rfl

theorem skipExponent_append (h : skipExponent cs = .ok r) (more : r ≠ []) (s : List Char) :
    skipExponent (cs ++ s) = .ok (r ++ s) := by
  cases cs with
  | nil =>
      cases h
      exact absurd rfl more
  | cons c cs =>
      by_cases letter : c = 'e' ∨ c = 'E'
      · cases cs with
        | nil =>
            simp only [skipExponent, if_pos letter] at h
            cases h
        | cons d cs =>
            by_cases signed : d = '+' ∨ d = '-'
            · have behind (t : List Char) : skipExponent (c :: d :: t) = skipDigits t := by
                rcases signed with rfl | rfl <;> simp [skipExponent, letter]
              rw [behind] at h
              rw [List.cons_append, List.cons_append, behind]
              exact skipDigits_append h more s
            · have signless (t : List Char) :
                  skipExponent (c :: d :: t) = skipDigits (d :: t) := by
                rw [not_or] at signed
                simp [skipExponent, letter, signed]
              rw [signless] at h
              rw [List.cons_append, List.cons_append, signless]
              exact skipDigits_append h more s
      · simp only [skipExponent, List.cons_append, if_neg letter] at h ⊢
        cases h
        rfl

/-- The rest after a number without its sign. -/
def skipUnsigned (cs : List Char) : Except Fault (List Char) :=
  let ds := cs.takeWhile Text.isDigit
  if ds = [] ∨ (ds.head? = some '0' ∧ ds ≠ ['0']) then .error .malformed
  else do skipExponent (← skipFraction (cs.dropWhile Text.isDigit))

theorem skipUnsigned_append (h : skipUnsigned cs = .ok r) (more : r ≠ []) (s : List Char) :
    skipUnsigned (cs ++ s) = .ok (r ++ s) := by
  simp only [skipUnsigned] at h ⊢
  split at h
  · cases h
  · rename_i good
    obtain ⟨front, fraction, exponent⟩ := exists_of_bind_eq_ok h
    have more' : front ≠ [] := by
      rintro rfl
      cases exponent
      exact more rfl
    cases behind : cs.dropWhile Text.isDigit with
    | nil =>
        rw [behind] at fraction
        cases fraction
        exact absurd rfl more'
    | cons c rest =>
        obtain ⟨digits, left⟩ := digits_append behind s
        rw [behind] at fraction
        have fraction' := skipFraction_append fraction more' s
        rw [List.cons_append] at fraction'
        rw [digits, left, if_neg good, fraction']
        exact skipExponent_append exponent more s

theorem skip_append (h : skip cs = .ok r) (more : r ≠ []) (s : List Char) :
    skip (cs ++ s) = .ok (r ++ s) := by
  cases cs with
  | nil => cases h
  | cons c cs =>
      by_cases minus : c = '-'
      · subst minus
        have unsigned : skipUnsigned cs = .ok r := h
        exact skipUnsigned_append unsigned more s
      · have signless (t : List Char) : skip (c :: t) = skipUnsigned (c :: t) := by
          simp [skip, skipUnsigned, minus]
        rw [signless] at h
        rw [List.cons_append, signless]
        exact skipUnsigned_append h more s

end Numeral

end ClusterWatch.Json

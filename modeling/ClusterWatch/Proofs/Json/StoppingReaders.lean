/-
# Readers of arrays, objects and records stop where they stop

What holds of strings and numbers carries over to what is put together of them.  A closing bracket
stands behind everything in an array or object, so whatever is read in it was not at the end of the
text, and the array or object itself ends by a mark of its own.
-/
import ClusterWatch.Proofs.Json.Stopping

namespace ClusterWatch.Json

/-! ## Values that are skipped -/

theorem skipScalar_append {cs r : List Char} (h : skipScalar cs = .ok r) (more : r ≠ [])
    (s : List Char) : skipScalar (cs ++ s) = .ok (r ++ s) := by
  unfold skipScalar at h
  split at h
  · exact skipWord_append h s
  · exact skipWord_append h s
  · exact skipWord_append h s
  · exact Quoted.skip_append h s
  · split at h
    · rename_i number
      have skipped := Numeral.skip_append h more s
      rw [List.cons_append] at skipped ⊢
      rw [skipScalar, if_pos number]
      · exact skipped
      all_goals assumption
    · cases h
  · cases h

theorem exists_cons_of_skipScalar {cs r : List Char} (h : skipScalar cs = .ok r) :
    ∃ c tail, cs = c :: tail := by
  cases cs with
  | nil => cases h
  | cons c tail => exact ⟨c, tail, rfl⟩

theorem skipLabel_append {b : Bracket} {cs r : List Char} (h : skipLabel b cs = .ok r)
    (s : List Char) : skipLabel b (cs ++ s) = .ok (r ++ s) := by
  unfold skipLabel at h
  split at h
  · cases h
    rfl
  · obtain ⟨behind, skipped, colon⟩ := exists_of_bind_eq_ok h
    simp only [skipLabel, List.cons_append, Quoted.skip_append skipped s]
    exact skipColon_append colon s
  · cases h

theorem skipOpen_nil {fuel : Nat} {b : Bracket} {outer : List Bracket} {first : Bool}
    {r : List Char} : skipOpen fuel (b :: outer) first [] ≠ .ok r := by
  cases fuel <;> nofun

theorem skipOpen_append {fuel fuel' : Nat} {brackets : List Bracket} {first : Bool} {cs r : List Char}
    (h : skipOpen fuel brackets first cs = .ok r) (enough : fuel ≤ fuel') (s : List Char) :
    skipOpen fuel' brackets first (cs ++ s) = .ok (r ++ s) := by
  induction fuel generalizing fuel' brackets first cs with
  | zero =>
      cases brackets with
      | nil =>
          cases h
          cases fuel' <;> rfl
      | cons => cases h
  | succ fuel ih =>
      cases brackets with
      | nil =>
          cases h
          cases fuel' <;> rfl
      | cons b outer =>
          obtain ⟨more, rfl⟩ := Nat.exists_eq_add_of_le' enough
          have least : fuel ≤ more + fuel := Nat.le_add_left ..
          rw [← Nat.add_assoc]
          simp only [skipOpen] at h ⊢
          split at h
          · cases h
          · rename_i closes
            rw [next_append closes s]
            exact ih h least
          · rename_i element begins
            rw [next_append begins s]
            dsimp only [Next.append]
            split at h
            · cases h
            · rename_i value label
              rw [skipLabel_append label s]
              dsimp only
              split at h
              · rename_i opens
                rw [skipSpace_append opens s]
                exact ih h least
              · rename_i opens
                rw [skipSpace_append opens s]
                exact ih h least
              · rename_i square curly
                split at h
                · cases h
                · rename_i rest skipped
                  have more' : rest ≠ [] := by
                    rintro rfl
                    exact skipOpen_nil h
                  obtain ⟨c, tail, front⟩ := exists_cons_of_skipScalar skipped
                  rw [front] at skipped square curly
                  rw [skipSpace_append front s]
                  have skipped' := skipScalar_append skipped more' s
                  rw [List.cons_append] at skipped'
                  split
                  · rename_i same
                    exact (square tail (by rw [(List.cons.inj same).1])).elim
                  · rename_i same
                    exact (curly tail (by rw [(List.cons.inj same).1])).elim
                  · rw [skipped']
                    exact ih h least

theorem skipValue_append {cs r : List Char} (h : skipValue cs = .ok r) (more : r ≠ [])
    (s : List Char) : skipValue (cs ++ s) = .ok (r ++ s) := by
  unfold skipValue at h
  split at h
  · rename_i opens
    rw [skipValue, skipSpace_append opens s]
    exact skipOpen_append h (by simp) s
  · rename_i opens
    rw [skipValue, skipSpace_append opens s]
    exact skipOpen_append h (by simp) s
  · rename_i square curly
    obtain ⟨c, tail, front⟩ := exists_cons_of_skipScalar h
    rw [front] at h square curly
    have skipped := skipScalar_append h more s
    rw [List.cons_append] at skipped
    rw [skipValue, skipSpace_append front s]
    split
    · rename_i same
      exact (square tail (by rw [(List.cons.inj same).1])).elim
    · rename_i same
      exact (curly tail (by rw [(List.cons.inj same).1])).elim
    · exact skipped

/-! ## Values that are read -/

variable {α β : Type} {read : Reader α}

/-- A reader that takes nothing from an empty text and, where it stops before the end of a text,
stops whatever follows. -/
structure Stops (read : Reader α) : Prop where
  nil {v : α} {r : List Char} : read [] ≠ .ok (v, r)
  append {cs r : List Char} {v : α} : read cs = .ok (v, r) → r ≠ [] →
    ∀ s, read (cs ++ s) = .ok (v, r ++ s)

/-- A reader whose values end by a mark of their own, so that it stops whatever follows. -/
structure Delimits (read : Reader α) : Prop where
  nil {v : α} {r : List Char} : read [] ≠ .ok (v, r)
  append {cs r : List Char} {v : α} : read cs = .ok (v, r) → ∀ s, read (cs ++ s) = .ok (v, r ++ s)

theorem Delimits.stops (h : Delimits read) : Stops read where
  nil := h.nil
  append := fun answer _ => h.append answer

theorem Stops.map (h : Stops read) (f : α → β) : Stops (read.map f) where
  nil := by
    intro w r answer
    obtain ⟨⟨v, r'⟩, answer, -⟩ := exists_of_bind_eq_ok answer
    exact h.nil answer
  append := by
    intro cs r w answer more s
    obtain ⟨⟨v, r'⟩, answer, same⟩ := exists_of_bind_eq_ok answer
    cases same
    simp only [Reader.map, h.append answer more s]
    rfl

theorem delimits_readText : Delimits readText where
  nil := nofun
  append := by
    intro cs r v answer s
    unfold readText at answer
    split at answer
    · rename_i quote
      rw [readText, skipSpace_append quote s]
      exact Quoted.decode_append answer s
    · cases answer

theorem stops_readReal : Stops readReal where
  nil := nofun
  append := by
    intro cs r x answer more s
    obtain ⟨⟨n, r'⟩, numeral, same⟩ := exists_of_bind_eq_ok answer
    cases same
    have numeral' : readNumeral (cs ++ s) = .ok (n, r ++ s) := by
      unfold readNumeral at numeral
      split at numeral
      · rename_i front
        rw [readNumeral, skipSpace_append front s]
        dsimp only
        split at numeral
        · rename_i number
          rw [if_pos number]
          exact Numeral.read_append numeral more s
        · cases numeral
      · cases numeral
    simp only [readReal, numeral']
    rfl

theorem Stops.optional (h : Stops read) : Stops (readOptional read) where
  nil := by
    intro v r answer
    obtain ⟨⟨w, r'⟩, answer, -⟩ := exists_of_bind_eq_ok answer
    exact h.nil answer
  append := by
    intro cs r v answer more s
    unfold readOptional at answer
    split at answer
    · rename_i front
      obtain ⟨r', word, same⟩ := exists_of_bind_eq_ok answer
      cases same
      rw [readOptional, skipSpace_append front s]
      simp only [skipWord_append word s]
      rfl
    · rename_i present
      obtain ⟨⟨w, r'⟩, answer, same⟩ := exists_of_bind_eq_ok answer
      cases same
      cases front : skipSpace cs with
      | nil =>
          rw [front] at answer
          exact absurd answer h.nil
      | cons c tail =>
          rw [front] at answer present
          have answer' := h.append answer more s
          rw [List.cons_append] at answer'
          rw [readOptional, skipSpace_append front s]
          split
          · rename_i same
            exact (present tail (by rw [(List.cons.inj same).1])).elim
          · rw [answer']
            rfl

theorem readItems_nil {fuel : Nat} {first : Bool} {vs : List α} {r : List Char} :
    readItems read fuel first [] ≠ .ok (vs, r) := by
  cases fuel <;> nofun

theorem readItems_append (h : Stops read) {fuel fuel' : Nat} {first : Bool} {cs r : List Char}
    {vs : List α} (answer : readItems read fuel first cs = .ok (vs, r)) (enough : fuel ≤ fuel')
    (s : List Char) : readItems read fuel' first (cs ++ s) = .ok (vs, r ++ s) := by
  induction fuel generalizing fuel' first cs vs with
  | zero => cases answer
  | succ fuel ih =>
      obtain ⟨more, rfl⟩ := Nat.exists_eq_add_of_le' enough
      have least : fuel ≤ more + fuel := Nat.le_add_left ..
      rw [← Nat.add_assoc, readItems]
      obtain ⟨front, hnext, answer⟩ := exists_of_bind_eq_ok answer
      rw [next_append hnext s]
      cases front with
      | close =>
          cases answer
          rfl
      | element =>
          obtain ⟨⟨v, r₁⟩, one, answer⟩ := exists_of_bind_eq_ok answer
          obtain ⟨⟨vs, r₂⟩, rest, same⟩ := exists_of_bind_eq_ok answer
          cases same
          have behind : r₁ ≠ [] := by
            rintro rfl
            exact readItems_nil rest
          simp only [Next.append, bind, Except.bind, h.append one behind s, ih rest least]
          rfl

theorem Stops.list (h : Stops read) : Delimits (readList read) where
  nil := nofun
  append := by
    intro cs r vs answer s
    unfold readList at answer
    split at answer
    · rename_i opens
      rw [readList, skipSpace_append opens s]
      exact readItems_append h answer (by simp) s
    · cases answer

theorem readName_append {cs r : List Char} {name : String} (h : readName cs = .ok (name, r))
    (s : List Char) : readName (cs ++ s) = .ok (name, r ++ s) := by
  unfold readName at h
  split at h
  · exact Quoted.decode_append h s
  · cases h

theorem readEntries_nil {fuel : Nat} {first : Bool} {vs : List (String × α)} {r : List Char} :
    readEntries read fuel first [] ≠ .ok (vs, r) := by
  cases fuel <;> nofun

theorem readEntries_append (h : Stops read) {fuel fuel' : Nat} {first : Bool} {cs r : List Char}
    {vs : List (String × α)} (answer : readEntries read fuel first cs = .ok (vs, r))
    (enough : fuel ≤ fuel') (s : List Char) :
    readEntries read fuel' first (cs ++ s) = .ok (vs, r ++ s) := by
  induction fuel generalizing fuel' first cs vs with
  | zero => cases answer
  | succ fuel ih =>
      obtain ⟨more, rfl⟩ := Nat.exists_eq_add_of_le' enough
      have least : fuel ≤ more + fuel := Nat.le_add_left ..
      rw [← Nat.add_assoc, readEntries]
      obtain ⟨front, hnext, answer⟩ := exists_of_bind_eq_ok answer
      rw [next_append hnext s]
      cases front with
      | close =>
          cases answer
          rfl
      | element =>
          obtain ⟨⟨name, r₁⟩, hname, answer⟩ := exists_of_bind_eq_ok answer
          obtain ⟨value, colon, answer⟩ := exists_of_bind_eq_ok answer
          obtain ⟨⟨v, r₂⟩, one, answer⟩ := exists_of_bind_eq_ok answer
          obtain ⟨⟨vs, r₃⟩, rest, same⟩ := exists_of_bind_eq_ok answer
          cases same
          have behind : r₂ ≠ [] := by
            rintro rfl
            exact readEntries_nil rest
          simp only [Next.append, bind, Except.bind, readName_append hname s,
            skipColon_append colon s, h.append one behind s, ih rest least]
          rfl

theorem Stops.dictionary (h : Stops read) : Delimits (readMap read) where
  nil := nofun
  append := by
    intro cs r m answer s
    unfold readMap at answer
    split at answer
    · rename_i inner opens
      obtain ⟨⟨entries, r'⟩, within, same⟩ := exists_of_bind_eq_ok answer
      cases same
      have enough : inner.length + 1 ≤ (inner ++ s).length + 1 := by simp
      rw [readMap, skipSpace_append opens s]
      simp only [readEntries_append h within enough s]
      rfl
    · cases answer

/-! ## Records -/

variable {σ : Type} {members : List (Member σ)}

theorem Member.stops_needed (h : Stops read) (name : String) (set : α → σ → σ) :
    Stops (Member.needed name read set).read :=
  h.map set

theorem Member.stops_optional (h : Stops read) (name : String) (set : α → σ → σ) :
    Stops (Member.optional name read set).read :=
  h.map set

theorem readFields_nil {fuel : Nat} {first : Bool} {seen : List String} {record result : σ}
    {r : List Char} : readFields members fuel first seen record [] ≠ .ok (result, r) := by
  cases fuel <;> nofun

theorem readFields_append (stops : ∀ m ∈ members, Stops m.read) {fuel fuel' : Nat} {first : Bool}
    {seen : List String} {record result : σ} {cs r : List Char}
    (answer : readFields members fuel first seen record cs = .ok (result, r))
    (enough : fuel ≤ fuel') (s : List Char) :
    readFields members fuel' first seen record (cs ++ s) = .ok (result, r ++ s) := by
  induction fuel generalizing fuel' first seen record cs with
  | zero => cases answer
  | succ fuel ih =>
      obtain ⟨more, rfl⟩ := Nat.exists_eq_add_of_le' enough
      have least : fuel ≤ more + fuel := Nat.le_add_left ..
      rw [← Nat.add_assoc, readFields]
      rw [readFields] at answer
      obtain ⟨front, hnext, answer⟩ := exists_of_bind_eq_ok answer
      rw [next_append hnext s]
      cases front with
      | close =>
          dsimp only at answer
          split at answer
          · rename_i complete
            cases answer
            simp only [Next.append, bind, Except.bind, if_pos complete]
          · cases answer
      | element =>
          obtain ⟨⟨label, r₁⟩, hname, answer⟩ := exists_of_bind_eq_ok answer
          simp only [Next.append, bind, Except.bind, readName_append hname s]
          dsimp only at answer
          split at answer
          · rename_i unknown
            obtain ⟨value, colon, answer⟩ := exists_of_bind_eq_ok answer
            obtain ⟨behind, skipped, answer⟩ := exists_of_bind_eq_ok answer
            have more' : behind ≠ [] := by
              rintro rfl
              exact readFields_nil answer
            simp only [skipColon_append colon s, skipValue_append skipped more' s]
            exact ih answer least
          · rename_i m known
            split at answer
            · cases answer
            · rename_i new
              obtain ⟨value, colon, answer⟩ := exists_of_bind_eq_ok answer
              obtain ⟨⟨set, behind⟩, one, answer⟩ := exists_of_bind_eq_ok answer
              have more' : behind ≠ [] := by
                rintro rfl
                exact readFields_nil answer
              have one' := (stops m (List.mem_of_find?_eq_some known)).append one more' s
              simp only [if_neg new, skipColon_append colon s, one']
              exact ih answer least

theorem readPositions_nil {first : Bool} {record result : σ} {r : List Char} :
    readPositions members first record [] ≠ .ok (result, r) := by
  cases members <;> nofun

theorem readPositions_append (stops : ∀ m ∈ members, Stops m.read) {first : Bool}
    {record result : σ} {cs r : List Char}
    (answer : readPositions members first record cs = .ok (result, r)) (s : List Char) :
    readPositions members first record (cs ++ s) = .ok (result, r ++ s) := by
  induction members generalizing first record cs with
  | nil =>
      obtain ⟨front, hnext, answer⟩ := exists_of_bind_eq_ok answer
      rw [readPositions, next_append hnext s]
      cases front with
      | close =>
          cases answer
          rfl
      | element => cases answer
  | cons m members ih =>
      obtain ⟨front, hnext, answer⟩ := exists_of_bind_eq_ok answer
      rw [readPositions, next_append hnext s]
      cases front with
      | close =>
          dsimp only at answer
          split at answer
          · rename_i complete
            cases answer
            simp only [Next.append, bind, Except.bind, if_pos complete]
            rfl
          · cases answer
      | element =>
          obtain ⟨⟨set, behind⟩, one, answer⟩ := exists_of_bind_eq_ok answer
          have more' : behind ≠ [] := by
            rintro rfl
            exact readPositions_nil answer
          have one' := (stops m List.mem_cons_self).append one more' s
          simp only [Next.append, bind, Except.bind, one']
          exact ih (fun m mem => stops m (List.mem_cons_of_mem _ mem)) answer

theorem delimits_readRecord (stops : ∀ m ∈ members, Stops m.read) (default : σ) :
    Delimits (readRecord members default) where
  nil := nofun
  append := by
    intro cs r record answer s
    unfold readRecord at answer
    split at answer
    · rename_i opens
      rw [readRecord, skipSpace_append opens s]
      exact readFields_append stops answer (by simp) s
    · rename_i opens
      rw [readRecord, skipSpace_append opens s]
      exact readPositions_append stops answer s
    · cases answer

end ClusterWatch.Json

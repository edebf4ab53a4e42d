/-
# The form of JSON texts

The grammar of the format, without regard to what its values mean to the service: a text *spells* a
tree, whose leaves are numbers, words and strings as they are written, and whose nodes are arrays
and objects with their elements in the order of the text, repeated names included.

The grammar follows a text from left to right, with what is left behind as its last argument.  Where
a number ends is not marked by the number itself, so that a value alone may be cut off in more than
one way; what stands behind it in a whole text settles that (`Ends`), and a text spells one tree at
most (`Spells.unique`).
-/
import ClusterWatch.Json.Reader

namespace ClusterWatch.Json

/-! ## Scalars -/

/-- What may stand between quotation marks. -/
inductive Content : List Char → Prop
  | nil : Content []
  | plain {c : Char} {cs : List Char} (quote : c ≠ '"') (backslash : c ≠ '\\')
      (control : 0x20 ≤ c.toNat) (rest : Content cs) : Content (c :: cs)
  | escape {c : Char} {cs : List Char} (short : c ∈ ['"', '\\', '/', 'b', 'f', 'n', 'r', 't'])
      (rest : Content cs) : Content ('\\' :: c :: cs)
  | codeUnit {a b c d : Char} {cs : List Char}
      (hex : ∀ x ∈ [a, b, c, d], (Text.hexValue? x).isSome = true) (rest : Content cs) :
      Content ('\\' :: 'u' :: a :: b :: c :: d :: cs)

/-- One digit or more. -/
def Digits (cs : List Char) : Prop := cs ≠ [] ∧ ∀ c ∈ cs, Text.isDigit c = true

/-- The digits of a whole number; none of several is a zero in front. -/
def WholeDigits (cs : List Char) : Prop := Digits cs ∧ (cs.head? = some '0' → cs = ['0'])

/-- A fraction, or nothing. -/
inductive Fraction : List Char → Prop
  | absent : Fraction []
  | present {ds : List Char} (digits : Digits ds) : Fraction ('.' :: ds)

/-- An exponent, or nothing. -/
inductive Exponent : List Char → Prop
  | absent : Exponent []
  | present {e : Char} (sign : List Char) {ds : List Char} (letter : e ∈ ['e', 'E'])
      (signed : sign ∈ [[], ['+'], ['-']]) (digits : Digits ds) : Exponent (e :: (sign ++ ds))

inductive Number : List Char → Prop
  | mk (sign : List Char) {ds fraction exponent : List Char} (signed : sign ∈ [[], ['-']])
      (digits : WholeDigits ds) (behind : Fraction fraction) (power : Exponent exponent) :
      Number (sign ++ (ds ++ (fraction ++ exponent)))

/-- A value that is no array and no object. -/
inductive Scalar : List Char → Prop
  | word {w : String} (known : w ∈ ["null", "true", "false"]) : Scalar w.toList
  | number {n : List Char} (number : Number n) : Scalar n
  | string {raw : List Char} (content : Content raw) : Scalar ('"' :: (raw ++ ['"']))

/-! ## Arrays and objects -/

/-- A value as it is written.  An element of an object comes with what stands between the quotation
marks of its name, one of an array with nothing. -/
inductive Tree where
  | scalar (text : List Char)
  | group (b : Bracket) (elements : List (List Char × Tree))

def Bracket.opening : Bracket → Char
  | .square => '['
  | .curly => '{'

/-- An element begins where the blanks end, behind a comma unless it is the first one. -/
def Begins : Bool → List Char → List Char → Prop
  | true, cs, element => skipSpace cs = element
  | false, cs, element => ∃ r, skipSpace cs = ',' :: r ∧ skipSpace r = element

/-- In an object a name and a colon stand in front of a value. -/
inductive Labelled : Bracket → List Char → List Char → List Char → Prop
  | square (value : List Char) : Labelled .square value [] value
  | curly {raw behind value : List Char} (content : Content raw)
      (colon : skipSpace behind = ':' :: value) :
      Labelled .curly ('"' :: (raw ++ '"' :: behind)) raw value

/-- The elements in front of a closing bracket, from the first one on or from a later one on. -/
inductive Elements : Bracket → Bool → List Char → List (List Char × Tree) → List Char → Prop
  | close {b : Bracket} {first : Bool} {cs r : List Char} (closes : skipSpace cs = b.closing :: r) :
      Elements b first cs [] r
  | scalar {b : Bracket} {first : Bool} {cs element label value text r r' : List Char}
      {elements : List (List Char × Tree)} (begins : Begins first cs element)
      (labelled : Labelled b element label value) (form : Scalar text)
      (split : skipSpace value = text ++ r) (rest : Elements b false r elements r') :
      Elements b first cs ((label, .scalar text) :: elements) r'
  | group {b k : Bracket} {first : Bool} {cs element label value inner r r' : List Char}
      {inside elements : List (List Char × Tree)} (begins : Begins first cs element)
      (labelled : Labelled b element label value) (opens : skipSpace value = k.opening :: inner)
      (within : Elements k true inner inside r) (rest : Elements b false r elements r') :
      Elements b first cs ((label, .group k inside) :: elements) r'

/-- A value in front of a text. -/
inductive Value : List Char → Tree → List Char → Prop
  | scalar {cs text r : List Char} (form : Scalar text) (split : skipSpace cs = text ++ r) :
      Value cs (.scalar text) r
  | group {cs inner r : List Char} {b : Bracket} {elements : List (List Char × Tree)}
      (opens : skipSpace cs = b.opening :: inner) (within : Elements b true inner elements r) :
      Value cs (.group b elements) r

/-- A text spells a tree if nothing but blanks stands in front of it and behind it. -/
def Spells (cs : List Char) (tree : Tree) : Prop := ∃ r, Value cs tree r ∧ skipSpace r = []

theorem Elements.cons {b : Bracket} {first : Bool} {cs element label value r r' : List Char}
    {tree : Tree} {elements : List (List Char × Tree)} (begins : Begins first cs element)
    (labelled : Labelled b element label value) (front : Value value tree r)
    (rest : Elements b false r elements r') :
    Elements b first cs ((label, tree) :: elements) r' := by
  cases front with
  | scalar form split => exact .scalar begins labelled form split rest
  | group opens within => exact .group begins labelled opens within rest

/-! ## Where a scalar ends -/

/-- A character that belongs to no number and no word. -/
def isMark (c : Char) : Bool := isSpace c || [',', ':', '"', '[', ']', '{', '}'].contains c

/-- A text that goes on with no number and no word. -/
def Ends (cs : List Char) : Prop := ∀ c ∈ cs.head?, isMark c = true

theorem ends_of_skipSpace_eq_nil {cs : List Char} (blank : skipSpace cs = []) : Ends cs := by
  cases cs with
  | nil => nofun
  | cons c cs =>
      rintro _ ⟨⟩
      cases space : isSpace c with
      | true => simp [isMark, space]
      | false => simp [skipSpace, space] at blank

theorem ends_of_skipSpace_eq_cons {cs r : List Char} {c : Char} (front : skipSpace cs = c :: r)
    (mark : isMark c = true) : Ends cs := by
  cases cs with
  | nil => nofun
  | cons d cs =>
      rintro _ ⟨⟩
      cases space : isSpace d with
      | true => simp [isMark, space]
      | false =>
          have same : d :: cs = c :: r := by simpa [skipSpace, space] using front
          rwa [(List.cons.inj same).1]

theorem isMark_closing (b : Bracket) : isMark b.closing = true := by cases b <;> decide

theorem isMark_opening (b : Bracket) : isMark b.opening = true := by cases b <;> decide

theorem Elements.ends {b : Bracket} {cs r : List Char} {elements : List (List Char × Tree)}
    (h : Elements b false cs elements r) : Ends cs := by
  cases h with
  | close closes => exact ends_of_skipSpace_eq_cons closes (isMark_closing b)
  | scalar begins | group begins =>
      obtain ⟨r, comma, -⟩ := begins
      exact ends_of_skipSpace_eq_cons comma (by decide)

def isNumeric (c : Char) : Bool := Text.isDigit c || ['-', '+', '.', 'e', 'E'].contains c

theorem isMark_of_isNumeric {c : Char} (numeric : isNumeric c = true) : isMark c = false := by
  rw [← Bool.not_eq_true]
  intro mark
  simp only [isMark, isSpace, Bool.or_eq_true, beq_iff_eq, List.contains_iff_mem, List.mem_cons,
    List.not_mem_nil, or_false] at mark
  rcases mark with (((rfl | rfl) | rfl) | rfl) | rfl | rfl | rfl | rfl | rfl | rfl | rfl <;>
    revert numeric <;> decide

theorem Digits.numeric {cs : List Char} (h : Digits cs) : ∀ c ∈ cs, isNumeric c = true := by
  intro c mem
  simp [isNumeric, h.2 c mem]

theorem Number.unmarked {n : List Char} (h : Number n) : n ≠ [] ∧ ∀ c ∈ n, isMark c = false := by
  obtain @⟨sign, ds, fraction, exponent, signed, digits, behind, power⟩ := h
  constructor
  · simp [digits.1.1]
  intro c mem
  apply isMark_of_isNumeric
  have hsign : ∀ c ∈ sign, isNumeric c = true := by
    simp only [List.mem_cons, List.not_mem_nil, or_false] at signed
    rcases signed with rfl | rfl <;> exact List.all_eq_true.mp rfl
  have hfraction : ∀ c ∈ fraction, isNumeric c = true := by
    cases behind with
    | absent => nofun
    | present digits => exact List.forall_mem_cons.mpr ⟨by decide, digits.numeric⟩
  have hexponent : ∀ c ∈ exponent, isNumeric c = true := by
    cases power with
    | absent => nofun
    | present sign letter signed digits =>
        simp only [List.mem_cons, List.not_mem_nil, or_false] at letter signed
        refine List.forall_mem_cons.mpr ⟨by rcases letter with rfl | rfl <;> decide, ?_⟩
        refine List.forall_mem_append.mpr ⟨?_, digits.numeric⟩
        rcases signed with rfl | rfl | rfl <;> exact List.all_eq_true.mp rfl
  simp only [List.mem_append] at mem
  rcases mem with mem | mem | mem | mem
  · exact hsign c mem
  · exact digits.1.numeric c mem
  · exact hfraction c mem
  · exact hexponent c mem

theorem Scalar.string_or_unmarked {text : List Char} (h : Scalar text) :
    (∃ raw, Content raw ∧ text = '"' :: (raw ++ ['"'])) ∨
      text ≠ [] ∧ ∀ c ∈ text, isMark c = false := by
  cases h with
  | @word w known =>
      right
      simp only [List.mem_cons, List.not_mem_nil, or_false] at known
      have letters : w.toList.all (fun c => !isMark c) = true := by
        rcases known with rfl | rfl | rfl <;> decide
      refine ⟨by rcases known with rfl | rfl | rfl <;> decide, ?_⟩
      intro c mem
      simpa using List.all_eq_true.mp letters c mem
  | number number => exact Or.inr number.unmarked
  | string content => exact Or.inl ⟨_, content, rfl⟩

theorem Scalar.exists_cons {text : List Char} (h : Scalar text) :
    ∃ c r, text = c :: r ∧ (c = '"' ∨ isMark c = false) := by
  rcases h.string_or_unmarked with ⟨raw, -, rfl⟩ | ⟨hsome, unmarked⟩
  · exact ⟨_, _, rfl, Or.inl rfl⟩
  · obtain ⟨c, r, rfl⟩ := List.exists_cons_of_ne_nil hsome
    exact ⟨c, r, rfl, Or.inr (unmarked c List.mem_cons_self)⟩

theorem takeWhile_unmarked {text r : List Char} (unmarked : ∀ c ∈ text, isMark c = false)
    (ends : Ends r) : (text ++ r).takeWhile (!isMark ·) = text := by
  rw [List.takeWhile_append_of_pos (by simpa using unmarked)]
  cases r with
  | nil => simp
  | cons c r => simp [ends c rfl]

/-- A string ends at the first quotation mark that is not escaped. -/
theorem Content.unique {raw raw' r r' : List Char} (h : Content raw) (h' : Content raw')
    (same : raw ++ '"' :: r = raw' ++ '"' :: r') : raw = raw' ∧ r = r' := by
  induction h generalizing raw' with
  | nil =>
      cases h' with
      | nil => exact ⟨rfl, (List.cons.inj same).2⟩
      | plain quote => exact absurd (List.cons.inj same).1.symm quote
      | escape | codeUnit => exact absurd (List.cons.inj same).1 (by decide)
  | plain quote backslash _ _ ih =>
      cases h' with
      | nil => exact absurd (List.cons.inj same).1 quote
      | plain _ _ _ rest =>
          obtain ⟨rfl, behind⟩ := List.cons.inj same
          obtain ⟨rfl, rfl⟩ := ih rest behind
          exact ⟨rfl, rfl⟩
      | escape | codeUnit => exact absurd (List.cons.inj same).1 backslash
  | escape short _ ih =>
      cases h' with
      | nil => exact absurd (List.cons.inj same).1 (by decide)
      | plain _ backslash => exact absurd (List.cons.inj same).1.symm backslash
      | escape _ rest =>
          obtain ⟨rfl, behind⟩ := List.cons.inj (List.cons.inj same).2
          obtain ⟨rfl, rfl⟩ := ih rest behind
          exact ⟨rfl, rfl⟩
      | codeUnit =>
          obtain ⟨rfl, -⟩ := List.cons.inj (List.cons.inj same).2
          exact absurd short (by decide)
  | codeUnit _ _ ih =>
      cases h' with
      | nil => exact absurd (List.cons.inj same).1 (by decide)
      | plain _ backslash => exact absurd (List.cons.inj same).1.symm backslash
      | escape short =>
          obtain ⟨rfl, -⟩ := List.cons.inj (List.cons.inj same).2
          exact absurd short (by decide)
      | codeUnit _ rest =>
          simp only [List.cons_append, List.cons.injEq, true_and] at same
          obtain ⟨rfl, rfl, rfl, rfl, same⟩ := same
          obtain ⟨rfl, rfl⟩ := ih rest same
          exact ⟨rfl, rfl⟩

theorem Scalar.unique {text text' r r' : List Char} (h : Scalar text) (h' : Scalar text')
    (ends : Ends r) (ends' : Ends r') (same : text ++ r = text' ++ r') : text = text' ∧ r = r' := by
  have mark : isMark '"' = true := by decide
  rcases h.string_or_unmarked with ⟨raw, content, rfl⟩ | ⟨hsome, unmarked⟩ <;>
    rcases h'.string_or_unmarked with ⟨raw', content', rfl⟩ | ⟨some_', unmarked'⟩
  · simp only [List.cons_append, List.append_assoc, List.nil_append, List.cons.injEq,
      true_and] at same
    obtain ⟨rfl, rfl⟩ := content.unique content' same
    exact ⟨rfl, rfl⟩
  · obtain ⟨c, cs, rfl⟩ := List.exists_cons_of_ne_nil some_'
    rw [(List.cons.inj same).1, unmarked' c List.mem_cons_self] at mark
    cases mark
  · obtain ⟨c, cs, rfl⟩ := List.exists_cons_of_ne_nil hsome
    rw [← (List.cons.inj same).1, unmarked c List.mem_cons_self] at mark
    cases mark
  · have htext : text = text' := by
      rw [← takeWhile_unmarked unmarked ends, same, takeWhile_unmarked unmarked' ends']
    subst htext
    exact ⟨rfl, List.append_cancel_left same⟩

/-! ## One tree at most -/

theorem Begins.unique {first : Bool} {cs element element' : List Char} (h : Begins first cs element)
    (h' : Begins first cs element') : element = element' := by
  cases first with
  | true => exact h.symm.trans h'
  | false =>
      obtain ⟨r, comma, rfl⟩ := h
      obtain ⟨r', comma', rfl⟩ := h'
      cases comma.symm.trans comma'
      rfl

theorem Labelled.of_curly {element raw value : List Char} (h : Labelled .curly element raw value) :
    ∃ behind, Content raw ∧ element = '"' :: (raw ++ '"' :: behind) ∧
      skipSpace behind = ':' :: value := by
  cases h with
  | curly content colon => exact ⟨_, content, rfl, colon⟩

theorem Labelled.unique {b : Bracket} {element label label' value value' : List Char}
    (h : Labelled b element label value) (h' : Labelled b element label' value') :
    label = label' ∧ value = value' := by
  cases b with
  | square =>
      cases h
      cases h'
      exact ⟨rfl, rfl⟩
  | curly =>
      obtain ⟨behind, content, rfl, colon⟩ := h.of_curly
      obtain ⟨behind', content', same, colon'⟩ := h'.of_curly
      obtain ⟨rfl, rfl⟩ := content.unique content' (List.cons.inj same).2
      cases colon.symm.trans colon'
      exact ⟨rfl, rfl⟩

theorem Scalar.append_ne_cons {text r r' : List Char} (h : Scalar text) {c : Char}
    (mark : isMark c = true) (other : c ≠ '"') : text ++ r ≠ c :: r' := by
  obtain ⟨d, cs, rfl, front⟩ := h.exists_cons
  intro same
  obtain ⟨rfl, -⟩ := List.cons.inj same
  rcases front with rfl | unmarked
  · exact other rfl
  · rw [mark] at unmarked
    cases unmarked

theorem Scalar.append_ne_opening {text r r' : List Char} {b : Bracket} (h : Scalar text) :
    text ++ r ≠ b.opening :: r' :=
  h.append_ne_cons (isMark_opening b) (by cases b <;> decide)

theorem Bracket.opening_inj {b b' : Bracket} (same : b.opening = b'.opening) : b = b' := by
  revert same
  cases b <;> cases b' <;> decide

theorem Bracket.opening_ne_closing {b b' : Bracket} : b.opening ≠ b'.closing := by
  cases b <;> cases b' <;> decide

theorem skipSpace_skipSpace (cs : List Char) : skipSpace (skipSpace cs) = skipSpace cs := by
  induction cs with
  | nil => rfl
  | cons c cs ih => cases space : isSpace c <;> simp_all [skipSpace]

theorem Value.not_close {b : Bracket} {first : Bool} {cs element label value r r' : List Char}
    {tree : Tree} (h : Value value tree r) (begins : Begins first cs element)
    (labelled : Labelled b element label value) : skipSpace cs ≠ b.closing :: r' := by
  intro closes
  cases first with
  | false =>
      obtain ⟨r, comma, -⟩ := begins
      have same := (List.cons.inj (comma.symm.trans closes)).1
      cases b <;> exact absurd same (by decide)
  | true =>
      cases begins
      cases b with
      | curly =>
          obtain ⟨behind, -, quote, -⟩ := labelled.of_curly
          exact absurd (List.cons.inj (quote.symm.trans closes)).1 (by decide)
      | square =>
          cases labelled
          cases h with
          | scalar form split =>
              rw [skipSpace_skipSpace, closes] at split
              exact form.append_ne_cons (isMark_closing .square) (by decide) split.symm
          | group opens =>
              rw [skipSpace_skipSpace, closes] at opens
              exact Bracket.opening_ne_closing (List.cons.inj opens).1.symm

theorem Elements.unique {b : Bracket} {first : Bool} {cs r r' : List Char}
    {elements elements' : List (List Char × Tree)} (h : Elements b first cs elements r)
    (h' : Elements b first cs elements' r') : elements = elements' ∧ r = r' := by
  -- Where a scalar ends is settled by the elements behind it (`Elements.ends`), so that values
  -- cannot be shown to be unique before elements are.
  induction h generalizing elements' r' with
  | close closes =>
      cases h' with
      | close closes' =>
          cases closes.symm.trans closes'
          exact ⟨rfl, rfl⟩
      | scalar begins labelled form split =>
          exact absurd closes ((Value.scalar form split).not_close begins labelled)
      | group begins labelled opens within =>
          exact absurd closes ((Value.group opens within).not_close begins labelled)
  | scalar begins labelled form split rest ih =>
      cases h' with
      | close closes => exact absurd closes ((Value.scalar form split).not_close begins labelled)
      | scalar begins' labelled' form' split' rest' =>
          cases begins.unique begins'
          obtain ⟨rfl, rfl⟩ := labelled.unique labelled'
          obtain ⟨rfl, rfl⟩ :=
            form.unique form' rest.ends rest'.ends (split.symm.trans split')
          obtain ⟨rfl, rfl⟩ := ih rest'
          exact ⟨rfl, rfl⟩
      | group begins' labelled' opens' =>
          cases begins.unique begins'
          obtain ⟨rfl, rfl⟩ := labelled.unique labelled'
          exact absurd (split.symm.trans opens') form.append_ne_opening
  | group begins labelled opens within rest ihWithin ihRest =>
      cases h' with
      | close closes => exact absurd closes ((Value.group opens within).not_close begins labelled)
      | scalar begins' labelled' form' split' =>
          cases begins.unique begins'
          obtain ⟨rfl, rfl⟩ := labelled.unique labelled'
          exact absurd (split'.symm.trans opens) form'.append_ne_opening
      | group begins' labelled' opens' within' rest' =>
          cases begins.unique begins'
          obtain ⟨rfl, rfl⟩ := labelled.unique labelled'
          obtain ⟨same, rfl⟩ := List.cons.inj (opens.symm.trans opens')
          cases Bracket.opening_inj same
          obtain ⟨rfl, rfl⟩ := ihWithin within'
          obtain ⟨rfl, rfl⟩ := ihRest rest'
          exact ⟨rfl, rfl⟩

/-- A text spells one tree at most. -/
theorem Spells.unique {cs : List Char} {tree tree' : Tree} (h : Spells cs tree)
    (h' : Spells cs tree') : tree = tree' := by
  obtain ⟨r, front, blank⟩ := h
  obtain ⟨r', front', blank'⟩ := h'
  cases front with
  | scalar form split =>
      cases front' with
      | scalar form' split' =>
          have same := form.unique form' (ends_of_skipSpace_eq_nil blank)
            (ends_of_skipSpace_eq_nil blank') (split.symm.trans split')
          rw [same.1]
      | group opens' => exact absurd (split.symm.trans opens') form.append_ne_opening
  | group opens within =>
      cases front' with
      | scalar form' split' => exact absurd (split'.symm.trans opens) form'.append_ne_opening
      | group opens' within' =>
          obtain ⟨same, rfl⟩ := List.cons.inj (opens.symm.trans opens')
          cases Bracket.opening_inj same
          rw [(within.unique within').1]

end ClusterWatch.Json

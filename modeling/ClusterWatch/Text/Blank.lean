/-
Blank characters and trimming.

A character is *blank* when Unicode gives it the property `White_Space`: twenty-five code points,
six of them inside ASCII.  Every trimming in the project (environment values, quantities, severity
labels, chat ids) removes exactly these, so the set is written down once, here.
-/
namespace ClusterWatch.Text

/-- The code points with the Unicode property `White_Space`. -/
def isBlank (c : Char) : Bool :=
  let n := c.toNat
  (0x09 ≤ n && n ≤ 0x0D) || n == 0x20 || n == 0x85 || n == 0xA0 || n == 0x1680 ||
    (0x2000 ≤ n && n ≤ 0x200A) || n == 0x2028 || n == 0x2029 || n == 0x202F || n == 0x205F ||
    n == 0x3000

def dropBlanks (cs : List Char) : List Char := cs.dropWhile isBlank

def dropBlanksEnd (cs : List Char) : List Char := (dropBlanks cs.reverse).reverse

/-- A character list without the blanks at either end. -/
def trimList (cs : List Char) : List Char := dropBlanksEnd (dropBlanks cs)

def trim (s : String) : String := String.ofList (trimList s.toList)

def isBlankText (s : String) : Bool := s.toList.all isBlank

theorem dropBlanks_head (cs : List Char) (c : Char) (r : List Char)
    (h : dropBlanks cs = c :: r) : isBlank c = false := by
  induction cs with
  | nil => simp [dropBlanks] at h
  | cons d ds ih =>
    by_cases hd : isBlank d = true
    · exact ih (by simpa [dropBlanks, List.dropWhile, hd] using h)
    · simp [dropBlanks, List.dropWhile, hd] at h
      simpa [← h.1] using hd

theorem exists_blanks_dropBlanks (cs : List Char) :
    ∃ front, front.all isBlank = true ∧ cs = front ++ dropBlanks cs := by
  refine ⟨cs.takeWhile isBlank, ?_, ?_⟩
  · rw [List.all_takeWhile]
  · simp [dropBlanks]

end ClusterWatch.Text

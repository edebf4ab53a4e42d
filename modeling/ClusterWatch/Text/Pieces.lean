/-
Pieces of a text between separators.

A text with `n` separators has `n + 1` pieces, some of them perhaps empty.
-/
namespace ClusterWatch.Text

/-- The pieces of a character list between occurrences of a separator. -/
def piecesBy (separator : Char) (cs : List Char) : List (List Char) := cs.splitOn separator

/-- Lists with a separator between them. -/
def joinWith (separator : List Char) : List (List Char) → List Char
  | [] => []
  | [piece] => piece
  | piece :: more => piece ++ separator ++ joinWith separator more

/-- The two sides of the first separator, if there is one. -/
def cutAt? (separator : Char) (cs : List Char) : Option (List Char × List Char) :=
  match cs.dropWhile (· != separator) with
  | [] => none
  | _ :: r => some (cs.takeWhile (· != separator), r)

def dropLeading? : List Char → List Char → Option (List Char)
  | [], cs => some cs
  | p :: ps, c :: cs => if p = c then dropLeading? ps cs else none
  | _ :: _, [] => none

theorem joinWith_eq_intercalate (separator : List Char) (pieces : List (List Char)) :
    joinWith separator pieces = separator.intercalate pieces := by
  induction pieces with
  | nil => rfl
  | cons a r ih =>
    cases r with
    | nil => simp [joinWith]
    | cons b r => simp [joinWith, ih, List.intercalate_cons_cons]

/-- Pieces without a separator in them come back when they are joined and cut again. -/
theorem piecesBy_joinWith (separator : Char) {pieces : List (List Char)}
    (h : ∀ piece ∈ pieces, separator ∉ piece) (hne : pieces ≠ []) :
    piecesBy separator (joinWith [separator] pieces) = pieces := by
  rw [joinWith_eq_intercalate]
  exact List.splitOn_intercalate separator h hne

end ClusterWatch.Text

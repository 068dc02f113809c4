/-!
# Lines

Cutting a text at every occurrence of a character (`splitOn`) and putting it together again
(`joinWith`).

* `joinWith_splitOn`: the pieces joined by the character are the text.
-/

namespace Billing.Text

/-- The pieces between the occurrences of `sep`: one more than there are occurrences. -/
def splitOn (sep : Char) (s : List Char) : List (List Char) :=
  match _hs : s.dropWhile (· != sep) with
  | [] => [s]
  | _ :: rest => s.takeWhile (· != sep) :: splitOn sep rest
termination_by s.length
decreasing_by
  have := (List.dropWhile_sublist (p := (· != sep)) (l := s)).length_le
  rw [_hs] at this
  simp at this
  omega

/-- The pieces joined by a separator. -/
def joinWith (sep : Char) (pieces : List (List Char)) : List Char := List.intercalate [sep] pieces

theorem splitOn_ne_nil (sep : Char) (s : List Char) : splitOn sep s ≠ [] := by
  unfold splitOn
  split <;> simp

theorem joinWith_cons {sep : Char} {p : List Char} {ps : List (List Char)} (h : ps ≠ []) :
    joinWith sep (p :: ps) = p ++ sep :: joinWith sep ps := by
  cases ps with
  | nil => exact absurd rfl h
  | cons q qs => simp [joinWith, List.intercalate]

theorem joinWith_splitOn (sep : Char) (s : List Char) : joinWith sep (splitOn sep s) = s := by
  fun_induction splitOn sep s with
  | case1 s h => simp [joinWith, List.intercalate]
  | case2 s c rest h ih =>
    have hc : c = sep := by
      have := List.head_dropWhile_not (l := s) (· != sep) (by simp [h])
      simpa [h] using this
    have hs := List.takeWhile_append_dropWhile (p := (· != sep)) (l := s)
    rw [joinWith_cons (splitOn_ne_nil sep rest), ih]
    rwa [h, hc] at hs

/-- The pieces of a text between the occurrences of `sep`. -/
def pieces (sep : Char) (s : String) : List String := (splitOn sep s.toList).map String.ofList

/-- The lines of a text: at least one, without the newlines that end them. -/
def lines (s : String) : List String := pieces '\n' s

/-- The lines joined by newlines. -/
def unlines (ls : List String) : String := String.intercalate "\n" ls

/-- The text with every line end written as a newline. -/
def unifyLineEnds : List Char → List Char
  | '\r' :: '\n' :: s => '\n' :: unifyLineEnds s
  | '\r' :: s => '\n' :: unifyLineEnds s
  | c :: s => c :: unifyLineEnds s
  | [] => []

/-- Whether `part` occurs somewhere in the text. -/
def contains (part : List Char) : List Char → Bool
  | [] => part.isEmpty
  | c :: s => part.isPrefixOf (c :: s) || contains part s

end Billing.Text

import Billing.Fault
import Billing.Number.Positional
import Billing.Text.Digit

/-!
# Integers as text

The decimal text of an integer (`integerText`), the same with its digits grouped in threes
(`groupedText`), both refused beyond the longest integer that is written, and the reading of a run
of digits (`readDigits`), refused beyond the same length.

* `ungroup_group`: the groups without their commas are the digits.
-/

namespace Billing.Number

-- Powers are those of the core library, whichever others are imported.
attribute [local instance (high)] instPowNat

/-- A comma after every third character while characters follow. -/
def groupFromLeft : List Char → List Char
  | a :: b :: c :: d :: s => a :: b :: c :: ',' :: groupFromLeft (d :: s)
  | s => s

/-- The digits in groups of three, counted from the right and divided by commas. -/
def group (s : List Char) : List Char := (groupFromLeft s.reverse).reverse

/-- The text without its commas. -/
def ungroup (s : List Char) : List Char := s.filter (· != ',')

/-- The sign of a negative number, then the text of its size. -/
def signed (negative : Bool) (size : List Char) : String :=
  String.ofList (if negative then '-' :: size else size)

/-- The decimal text of an integer. -/
def integer (n : Int) : String := signed (n < 0) (digits n.natAbs)

/-- Whether the integer has at most as many digits as are written. -/
def isWritable (n : Int) : Bool := n.natAbs < 10 ^ Text.digitLimit

/-- The decimal text of an integer, if it is not too long. -/
def integerText (n : Int) : Except Fault String :=
  if isWritable n then .ok (integer n) else .error .digitLimit

/-- The decimal text of an integer with its digits in groups, if it is not too long. -/
def groupedText (n : Int) : Except Fault String :=
  if isWritable n then .ok (signed (n < 0) (group (digits n.natAbs))) else .error .digitLimit

/-- The number that a run of digits of any scripts writes, if it is not too long. -/
def readDigits (s : List Char) : Except Fault Nat :=
  if s.length ≤ Text.digitLimit then .ok (Text.digitsValue s) else .error .digitLimit

theorem ungroup_groupFromLeft {s : List Char} (h : ',' ∉ s) : ungroup (groupFromLeft s) = s := by
  fun_induction groupFromLeft s with
  | case1 a b c d s ih =>
    simp only [List.mem_cons, not_or] at h
    obtain ⟨ha, hb, hc, hd, hs⟩ := h
    have := ih (by simp [hd, hs])
    simp only [ungroup, List.filter_cons] at this ⊢
    simp [this, Ne.symm ha, Ne.symm hb, Ne.symm hc]
  | case2 s _ =>
    exact List.filter_eq_self.2 fun c hc => by
      simp only [bne_iff_ne, ne_eq]
      rintro rfl
      exact h hc

theorem ungroup_group {s : List Char} (h : ',' ∉ s) : ungroup (group s) = s := by
  have := ungroup_groupFromLeft (s := s.reverse) (by simpa using h)
  rw [ungroup] at this
  rw [ungroup, group, List.filter_reverse, this, List.reverse_reverse]

end Billing.Number

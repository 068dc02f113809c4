/-!
# Blanks

The white space that may stand around a field: the 29 blank characters (`isBlank`), cutting them
off both ends of a text (`trim`), and texts without any other character (`IsBlank`).

* `trim_trim`: trimming twice is trimming once.
-/

namespace Billing.Text

/-- The white space characters: the ASCII ones with the four information separators, and the
spaces and line ends of the other scripts. -/
def isBlank (c : Char) : Bool :=
  let n := c.toNat
  (0x09 ≤ n && n ≤ 0x0D) || (0x1C ≤ n && n ≤ 0x20) || n == 0x85 || n == 0xA0 || n == 0x1680 ||
    (0x2000 ≤ n && n ≤ 0x200A) || n == 0x2028 || n == 0x2029 || n == 0x202F || n == 0x205F ||
    n == 0x3000

/-- The text without its leading blanks. -/
def trimLeft (s : List Char) : List Char := s.dropWhile isBlank

/-- The text without its last characters as long as they satisfy `p`. -/
def dropRightWhile (p : Char → Bool) (s : List Char) : List Char := (s.reverse.dropWhile p).reverse

/-- The text without its trailing blanks. -/
def trimRight (s : List Char) : List Char := dropRightWhile isBlank s

/-- The text without the blanks at either end. -/
def trim (s : List Char) : List Char := trimRight (trimLeft s)

/-- The text without the blanks at either end. -/
def strip (s : String) : String := String.ofList (trim s.toList)

/-- No character but blanks. -/
def IsBlank (s : List Char) : Prop := ∀ c ∈ s, isBlank c = true

instance (s : List Char) : Decidable (IsBlank s) := inferInstanceAs (Decidable (∀ c ∈ s, _))

/-- Dropping twice is dropping once. -/
theorem dropWhile_dropWhile (p : Char → Bool) (s : List Char) :
    (s.dropWhile p).dropWhile p = s.dropWhile p := by
  induction s with
  | nil => rfl
  | cons c s ih => by_cases h : p c <;> simp [h, ih]

theorem trimLeft_trimLeft (s : List Char) : trimLeft (trimLeft s) = trimLeft s :=
  dropWhile_dropWhile isBlank s

theorem trimRight_trimRight (s : List Char) : trimRight (trimRight s) = trimRight s := by
  simp only [trimRight, dropRightWhile, List.reverse_reverse, dropWhile_dropWhile]

/-- A text that starts with no blank still starts with none when its end is cut. -/
theorem trimLeft_dropRightWhile {p : Char → Bool} {s : List Char} (h : trimLeft s = s) :
    trimLeft (dropRightWhile p s) = dropRightWhile p s := by
  cases s with
  | nil => rfl
  | cons c s =>
    have hc : isBlank c = false := by
      cases hb : isBlank c with
      | false => rfl
      | true =>
        have hl : (s.dropWhile isBlank).length ≤ s.length :=
          (List.dropWhile_sublist _).length_le
        rw [trimLeft, List.dropWhile_cons_of_pos hb] at h
        rw [h, List.length_cons] at hl
        omega
    have hp : dropRightWhile p (c :: s) <+: c :: s := by
      rw [dropRightWhile, ← List.reverse_suffix, List.reverse_reverse]
      exact List.dropWhile_suffix _
    cases hd : dropRightWhile p (c :: s) with
    | nil => rfl
    | cons d r =>
      obtain ⟨t, ht⟩ := hp
      rw [hd] at ht
      injection ht with hdc _
      rw [trimLeft, List.dropWhile_cons_of_neg (by simp [hdc, hc])]

theorem trim_trim (s : List Char) : trim (trim s) = trim s := by
  have h : trimLeft (trimRight (trimLeft s)) = trimRight (trimLeft s) :=
    trimLeft_dropRightWhile (trimLeft_trimLeft s)
  rw [trim, trim, h, trimRight_trimRight]

end Billing.Text

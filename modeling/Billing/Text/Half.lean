/-!
# Halves of characters

UTF-16 writes a character beyond the basic plane with two units, its halves. A half that stands
alone is no character, and nothing can send, store or print it; yet units and escapes can name it.
A text that may hold such halves is a `Raw` text, made of points (`Point`). Where a plain text is
needed of it, the halves are filled by characters that are absent from all texts at hand (`absent`).

* `ofUnits_units`: a character is read from its units.
* `not_mem_of_mem_absent`: what fills halves occurs in none of the texts.
* `Raw.ofPoints_map_char`: points that are characters make a whole text.
-/

namespace Billing.Text

/-! ## Units -/

/-- Whether a unit is the first half of a character. -/
def isHighHalf (u : Nat) : Bool := 0xD800 ≤ u && u < 0xDC00

/-- Whether a unit is the second half of a character. -/
def isLowHalf (u : Nat) : Bool := 0xDC00 ≤ u && u < 0xE000

/-- The character whose halves are `u` and `v`. -/
def joinHalves (u v : Nat) : Char := Char.ofNat (0x10000 + (u - 0xD800) * 0x400 + (v - 0xDC00))

/-- A character, or half of one that stands alone. -/
inductive Point where
  | char (c : Char)
  | half (unit : Nat)
  deriving DecidableEq, Repr

/-- The character that a point is. -/
def Point.char? : Point → Option Char
  | char c => some c
  | half _ => none

/-- The half that a point is. -/
def Point.half? : Point → Option Nat
  | char _ => none
  | half u => some u

/-- The point of a unit that stands alone. -/
def ofUnit (u : Nat) : Point :=
  if isHighHalf u || isLowHalf u then .half u else .char (Char.ofNat u)

/-- The points that units write. -/
def ofUnits : List Nat → List Point
  | u :: v :: us =>
    if isHighHalf u && isLowHalf v then .char (joinHalves u v) :: ofUnits us
    else ofUnit u :: ofUnits (v :: us)
  | [u] => [ofUnit u]
  | [] => []

/-- The units of a character. -/
def units (c : Char) : List Nat :=
  let n := c.toNat
  if n < 0x10000 then [n] else [0xD800 + (n - 0x10000) / 0x400, 0xDC00 + (n - 0x10000) % 0x400]

theorem ofUnits_units (c : Char) : ofUnits (units c) = [.char c] := by
  have hc : c.toNat < 0xD800 ∨ 0xDFFF < c.toNat ∧ c.toNat < 0x110000 := c.valid
  by_cases h : c.toNat < 0x10000
  · have : (isHighHalf c.toNat || isLowHalf c.toNat) = false := by
      simp only [isHighHalf, isLowHalf, Bool.or_eq_false_iff, Bool.and_eq_false_iff,
        decide_eq_false_iff_not]
      omega
    simp [units, h, ofUnits, ofUnit, this]
  · have hu : isHighHalf (0xD800 + (c.toNat - 0x10000) / 0x400) = true := by
      simp only [isHighHalf, Bool.and_eq_true, decide_eq_true_eq]
      omega
    have hv : isLowHalf (0xDC00 + (c.toNat - 0x10000) % 0x400) = true := by
      simp only [isLowHalf, Bool.and_eq_true, decide_eq_true_eq]
      omega
    have hj : 0x10000 + (0xD800 + (c.toNat - 0x10000) / 0x400 - 0xD800) * 0x400 +
        (0xDC00 + (c.toNat - 0x10000) % 0x400 - 0xDC00) = c.toNat := by omega
    simp only [units, h, if_false, ofUnits, hu, hv, Bool.and_self, if_true, joinHalves]
    rw [hj, Char.ofNat_toNat]

/-! ## Absent characters -/

/-- The first of the characters that may fill halves: from plane four on none is assigned, so that
they are no blanks, digits or separators and have the width of any other character. -/
def firstFiller : Nat := 0x40000

/-- How many characters may fill halves: those of the planes four to thirteen. -/
def fillerCount : Nat := 0xA0000

/-- Characters that `used` does not hold, `count` of them. -/
def absent (count : Nat) (used : List Char) : List Char :=
  let used := used.filter (firstFiller ≤ ·.toNat)
  let candidates := (List.range (min (count + used.length) fillerCount)).map fun k =>
    Char.ofNat (firstFiller + k)
  (candidates.filter (!used.contains ·)).take count

theorem not_mem_of_mem_absent {count : Nat} {used : List Char} {c : Char}
    (h : c ∈ absent count used) : c ∉ used := by
  have h := List.mem_of_mem_take h
  simp only [List.mem_filter, List.mem_map, List.mem_range, List.contains_eq_mem, Bool.not_eq_true',
    decide_eq_false_iff_not, decide_eq_true_eq, not_and] at h
  obtain ⟨⟨k, hk, rfl⟩, hn⟩ := h
  have hk : k < 0xA0000 := by
    rw [fillerCount] at hk
    omega
  have hv : (firstFiller + k).isValidChar := Or.inr (by rw [firstFiller]; omega)
  have hc : (Char.ofNat (firstFiller + k)).toNat = firstFiller + k := by
    rw [Char.ofNat, dif_pos hv]
    rfl
  exact fun hm => hn hm (by rw [hc]; exact Nat.le_add_right _ _)

/-! ## Raw texts -/

/-- A text in which halves of characters may stand alone; one that is `torn` holds some. -/
inductive Raw where
  | whole (text : String)
  | torn (points : List Point)
  deriving DecidableEq, Repr

instance : Coe String Raw := ⟨.whole⟩

namespace Raw

/-- The text with these points. -/
def ofPoints (ps : List Point) : Raw :=
  if ps.all (·.char?.isSome) then whole (String.ofList (ps.filterMap Point.char?)) else torn ps

/-- The points of the text. -/
def points : Raw → List Point
  | whole s => s.toList.map .char
  | torn ps => ps

/-- The characters of the text, without halves. -/
def characters : Raw → List Char
  | whole s => s.toList
  | torn ps => ps.filterMap Point.char?

/-- Whether the text holds no half of a character. -/
def isWhole : Raw → Bool
  | whole _ => true
  | torn _ => false

/-- Whether the text starts with these characters. -/
def startsWith (s : Raw) (start : String) : Bool :=
  (start.toList.map Point.char).isPrefixOf s.points

/-- The text with a character in place of every half; without a character halves are left out. -/
def fill (filler : Option Char) : Raw → String
  | whole s => s
  | torn ps => String.ofList (ps.filterMap fun p => p.char?.or filler)

theorem ofPoints_map_char (cs : List Char) :
    ofPoints (cs.map .char) = whole (String.ofList cs) := by
  have : (cs.map Point.char).all (·.char?.isSome) = true := by simp [Point.char?]
  rw [ofPoints, if_pos this, List.filterMap_map]
  simp [Function.comp_def, Point.char?]

end Raw

/-! ## Texts with fillers -/

/-- Which characters of a text stand for halves, and for which. -/
abbrev Fillers := List (Char × Nat)

/-- What a character of a text is. -/
def Fillers.point (fillers : Fillers) (c : Char) : Point := (fillers.lookup c).elim (.char c) .half

/-- Points as characters, with a character of its own for every half that is among them. -/
def hold (ps : List Point) : List Char × Fillers :=
  let halves := (ps.filterMap Point.half?).eraseDups
  let fillers := (absent halves.length (ps.filterMap Point.char?)).zip halves
  let filler? (u : Nat) : Option Char := (fillers.find? (·.2 = u)).map (·.1)
  (ps.filterMap fun p => p.char?.or (p.half?.bind filler?), fillers)

end Billing.Text

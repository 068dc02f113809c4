import Billing.Item.Sheet
import Billing.Proofs.Outcome

/-!
# The lines of a sheet

A line of a sheet is kept if it is not blank and has something in its first field (`IsKept`); every
kept line enters one item, and no other line decides what that item is. A sheet is refused for a
price that is longer than the numbers that are read (`IsOverlong`), and for nothing else.

* `Item.ofSheetLine?_eq`: what a line enters.
* `Item.ofSheet_eq_ok`, `Item.ofSheet_eq_error`: the items of a sheet.
-/

namespace Billing

/-! ## Single lines -/

/-- The fields of a line as it is, without the blanks around them. -/
def trimmedFields (line : String) : List (List Char) := (fields line.toList).map Text.trim

/-- The fields of a line in half width, without the blanks around them. -/
def lineFields (line : String) : List (List Char) :=
  (fields (Text.toHalfWidth (Text.strip line)).toList).map Text.trim

/-- The field at a position of a line; empty if there is none. -/
def lineField (line : String) (i : Nat) : List Char := (lineFields line).getD i []

/-- Whether a line enters an item: it is not blank, and neither is its first field. -/
def IsKept (line : String) : Prop := Text.strip line ≠ "" ∧ lineField line 0 ≠ []

instance (line : String) : Decidable (IsKept line) := inferInstanceAs (Decidable (_ ∧ _))

/-- The digits that the third field starts with. -/
def priceDigits (line : String) : List Char := (lineField line 2).takeWhile Text.isDigit

/-- Whether a line has a price of more digits than are read. -/
def IsOverlong (line : String) : Prop := Text.digitLimit < (priceDigits line).length

instance (line : String) : Decidable (IsOverlong line) := inferInstanceAs (Decidable (_ < _))

/-- The second field of a line; a missing one is zero. -/
def quantityField (line : String) : List Char :=
  if lineField line 1 = [] then ['0'] else lineField line 1

/-- The item that a kept line enters. -/
def enteredItem (line : String) : Item :=
  Item.ofFields (lineField line 0) (quantityField line) (Text.digitsValue (priceDigits line))

theorem readUnitPrice_nil : readUnitPrice [] = .ok 0 := rfl

theorem readUnitPrice_lineField (line : String) :
    readUnitPrice (lineField line 2) =
      if IsOverlong line then .error .digitLimit
      else .ok (Text.digitsValue (priceDigits line)) := by
  rw [readUnitPrice, ← priceDigits, Number.readDigits]
  by_cases h : IsOverlong line
  · rw [if_pos h, if_neg (Nat.not_le.2 h)]
  · rw [if_neg h, if_pos (Nat.not_lt.1 h)]

theorem lineField_zero_of_blank {line : String} (h : Text.strip line = "") :
    lineField line 0 = [] := by
  rw [lineField, lineFields, h]
  cbv

/-- The fields of a line decide what is read off it. -/
theorem Item.ofLine?_eq_trimmedFields (line : String) :
    ofLine? line =
      if (trimmedFields line).getD 0 [] = [] then .ok none
      else (readUnitPrice ((trimmedFields line).getD 2 [])).map fun price =>
        some (ofFields ((trimmedFields line).getD 0 [])
          (if (trimmedFields line).getD 1 [] = [] then ['0'] else (trimmedFields line).getD 1 [])
          price) := by
  rw [ofLine?, ← trimmedFields]
  generalize trimmedFields line = fs
  obtain - | ⟨- | ⟨c, name⟩, rest⟩ := fs
  · rfl
  · rfl
  · obtain - | ⟨- | ⟨d, quantity⟩, - | ⟨price, rest⟩⟩ := rest <;>
      simp [readUnitPrice_nil] <;> rfl

theorem Item.ofLine?_eq {line : String} (h : lineField line 0 ≠ []) :
    ofLine? (Text.toHalfWidth (Text.strip line)) =
      (readUnitPrice (lineField line 2)).map fun price =>
        some (ofFields (lineField line 0) (quantityField line) price) :=
  (ofLine?_eq_trimmedFields _).trans (if_neg h)

theorem Item.ofLine?_of_nil {line : String} (h : lineField line 0 = []) :
    ofLine? (Text.toHalfWidth (Text.strip line)) = .ok none :=
  (ofLine?_eq_trimmedFields _).trans (if_pos h)

/-- A line that is not kept enters nothing; of the others, those with a price that is too long are
refused. -/
theorem Item.ofSheetLine?_eq (line : String) :
    ofSheetLine? line =
      if ¬ IsKept line then .ok none
      else if IsOverlong line then .error .digitLimit
      else .ok (some (enteredItem line)) := by
  rw [ofSheetLine?]
  by_cases hblank : Text.strip line = ""
  · rw [if_pos (by simp [hblank]), if_pos fun h => h.1 hblank]
  rw [if_neg (by simpa using hblank)]
  by_cases hname : lineField line 0 = []
  · rw [Item.ofLine?_of_nil hname, if_pos fun h => h.2 hname]
  · rw [Item.ofLine?_eq hname, if_neg (not_not.2 ⟨hblank, hname⟩), readUnitPrice_lineField]
    split <;> rfl

/-! ## All lines -/

/-- The lines of a text that are kept. -/
def keptLines (text : String) : List String := (Text.lines text).filter (IsKept ·)

theorem mem_keptLines {text line : String} :
    line ∈ keptLines text ↔ line ∈ Text.lines text ∧ IsKept line := by
  rw [keptLines, List.mem_filter, decide_eq_true_eq]

/-- Every kept line of a sheet enters one item. -/
theorem Item.ofSheet_eq_ok {text : String} (h : ∀ line ∈ keptLines text, ¬ IsOverlong line) :
    ofSheet text = .ok ((keptLines text).map enteredItem) := by
  have hlines : (Text.lines text).mapM ofSheetLine? = .ok ((Text.lines text).map fun line =>
      if IsKept line then some (enteredItem line) else none) := by
    refine mapM_eq_ok_map fun line hline => ?_
    rw [ofSheetLine?_eq]
    by_cases hkept : IsKept line
    · rw [if_neg (not_not.2 hkept), if_neg (h line (mem_keptLines.2 ⟨hline, hkept⟩)), if_pos hkept]
    · rw [if_pos hkept, if_neg hkept]
  rw [ofSheet, hlines, keptLines, ← List.filterMap_eq_map (f := enteredItem),
    List.filterMap_filter]
  simp only [Except.map, List.filterMap_map, Function.comp_def, id_eq, decide_eq_true_eq]

/-- A sheet is refused for a kept line with a price that is too long. -/
theorem Item.ofSheet_eq_error {text : String} (h : ∃ line ∈ keptLines text, IsOverlong line) :
    ofSheet text = .error .digitLimit := by
  obtain ⟨line, hline, hlong⟩ := h
  obtain ⟨hline, hkept⟩ := mem_keptLines.1 hline
  have hlines : (Text.lines text).mapM ofSheetLine? = .error .digitLimit := by
    refine mapM_eq_error hline ?_ ?_
    · rw [ofSheetLine?_eq, if_neg (not_not.2 hkept), if_pos hlong]
    · intro line cause _ hcause
      rw [ofSheetLine?_eq] at hcause
      split_ifs at hcause
      exact (Except.error.inj hcause).symm
  rw [ofSheet, hlines]
  rfl

theorem Item.eq_map_of_ofSheet {text : String} {items : List Item} (h : ofSheet text = .ok items) :
    items = (keptLines text).map enteredItem ∧ ∀ line ∈ keptLines text, ¬ IsOverlong line := by
  have hlong : ∀ line ∈ keptLines text, ¬ IsOverlong line := by
    intro line hline hlong
    rw [ofSheet_eq_error ⟨line, hline, hlong⟩] at h
    cases h
  rw [ofSheet_eq_ok hlong] at h
  exact ⟨(Except.ok.inj h).symm, hlong⟩

end Billing

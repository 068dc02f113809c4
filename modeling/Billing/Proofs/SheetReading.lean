import Billing.Proofs.Delivery
import Billing.Proofs.Number.Written
import Billing.Proofs.Preparation

/-!
# What is read off a sheet

Whatever stands in the fields of a line, a number is read off each: the longest one that starts the
field, or zero (`QuantityRead`, `PriceRead`). Every text that counts as a number is read as one,
with one exception: a price may be a run of more digits than are read.

* `quantityRead_readQuantity`, `priceRead_readUnitPrice`: the numbers of the fields.
* `lineRead_ofSheetLine?`: every line enters nothing or one item, or has a price that is too long.
* `sheet_is_read`: so do the lines of a sheet, which is refused for such a price only.
-/

namespace Billing

open Text (isDigit trim dropRightWhile)

/-! ## Fields -/

/-- The quantity and the unit that may be read off a quantity field. -/
inductive QuantityRead (s : List Char) : Binary64 × String → Prop
  | lumpSum (text : s = lumpSum) : QuantityRead s (1, lumpSumUnit)
  /-- The longest number at the start of the field, read as a whole, and what follows it. -/
  | number {t rest n q} (text : s = t ++ rest) (writes : Writes t n)
      (longest : ∀ t' n', Writes t' n' → t' <+: s → t'.length ≤ t.length) (line : '\n' ∉ rest)
      (read : Binary64.read? t = some q) : QuantityRead s (q, String.ofList (trim rest))
  /-- The field is no lump sum, and no number at its start stands on its last line. -/
  | malformed (other : s ≠ Billing.lumpSum)
      (line : ∀ t rest n, s = t ++ rest → Writes t n → '\n' ∈ rest) : QuantityRead s (0, "")

/-- Every quantity field is read. -/
theorem quantityRead_readQuantity (s : List Char) : QuantityRead s (readQuantity s) := by
  unfold readQuantity
  split
  case isTrue h => exact .lumpSum h
  case isFalse hother =>
    split
    case h_1 n rest hread =>
      obtain ⟨t, hwrites, rfl⟩ := exists_writes_of_leadingNumber? hread
      -- what follows a shorter number ends with what follows the one that is read
      split
      case isTrue hline =>
        refine .malformed hother fun t' rest' n' htext hwrites' => ?_
        exact (isSuffix_of_leadingNumber? hread hwrites' htext).subset hline
      case isFalse hline =>
        refine .number rfl hwrites (fun t' n' hwrites' hprefix => ?_) hline hwrites.read?
        obtain ⟨rest', htext⟩ := hprefix
        have hlength := (isSuffix_of_leadingNumber? hread hwrites' htext.symm).length_le
        have := congrArg List.length htext
        simp only [List.length_append] at this
        omega
    case h_2 hnone =>
      refine .malformed hother fun t rest n htext hwrites => ?_
      obtain ⟨n', rest', hread, -⟩ := hwrites.exists_leadingNumber? rest
      rw [← htext, hnone] at hread
      cases hread

/-- The price that may be read off a price field. -/
inductive PriceRead (s : List Char) : Except Fault Nat → Prop
  | malformed (head : ∀ c ∈ s.head?, isDigit c = false) : PriceRead s (.ok 0)
  /-- All digits that the field starts with, read as one integer. -/
  | digits {n : Nat} (read : Number.readInteger? (s.takeWhile isDigit) = some (n : Int)) :
      PriceRead s (.ok n)
  | overlong (length : Text.digitLimit < (s.takeWhile isDigit).length)
      (unread : Number.readInteger? (s.takeWhile isDigit) = none) :
      PriceRead s (.error .digitLimit)

/-- Every price field is read, but for one that is too long. -/
theorem priceRead_readUnitPrice (s : List Char) : PriceRead s (readUnitPrice s) := by
  have hdigits : ∀ c ∈ s.takeWhile isDigit, isDigit c := fun c hc => List.mem_takeWhile_imp hc
  have hread := Number.readInteger?_of_forall hdigits
  rw [readUnitPrice, Number.readDigits]
  by_cases hlength : (s.takeWhile isDigit).length ≤ Text.digitLimit
  · rw [if_pos hlength]
    by_cases hnil : s.takeWhile isDigit = []
    · rw [hnil]
      refine .malformed fun c hc => ?_
      obtain ⟨s, rfl⟩ := List.head?_eq_some_iff.1 hc
      by_contra hdigit
      rw [List.takeWhile_cons_of_pos (by simpa using hdigit)] at hnil
      cases hnil
    · exact .digits (by rw [hread, if_pos ⟨hnil, hlength⟩])
  · rw [if_neg hlength]
    exact .overlong (Nat.not_le.1 hlength) (by rw [hread, if_neg fun h => hlength h.2])

/-! ## Lines -/

/-- The item that is entered with this name, quantity field and price. -/
inductive ItemRead (name quantity : List Char) (price : Nat) : Item → Prop
  | levy (name_levy : levyName.toList <:+: name) :
      ItemRead name quantity price
        { name := levyName, quantityText := String.ofList quantity, quantity := 1,
          unit := lumpSumUnit, unitPrice := 0, category := .welfareLevy }
  | surcharge {percentage unit} (name_levy : ¬ levyName.toList <:+: name)
      (name_surcharge : surchargeName.toList <:+: name)
      (quantity_percentage : isPercentage quantity)
      (read : QuantityRead (trim (dropRightWhile (· == '%') quantity)) (percentage, unit)) :
      ItemRead name quantity price
        { name := surchargeName, quantityText := String.ofList quantity, quantity := percentage,
          unit := "%", unitPrice := price, category := .percentageSurcharge }
  | standard {amount unit} (name_levy : ¬ levyName.toList <:+: name)
      (name_surcharge : surchargeName.toList <:+: name → ¬ isPercentage quantity)
      (read : QuantityRead quantity (amount, unit)) :
      ItemRead name quantity price
        { name := String.ofList name, quantityText := String.ofList quantity, quantity := amount,
          unit := unit, unitPrice := price }

theorem itemRead_ofFields (name quantity : List Char) (price : Nat) :
    ItemRead name quantity price (Item.ofFields name quantity price) := by
  rw [Item.ofFields]
  simp only [Bool.and_eq_true, Text.contains_iff]
  split
  case isTrue hlevy => exact .levy hlevy
  case isFalse hlevy =>
    split
    case isTrue h => exact .surcharge hlevy h.1 h.2 (quantityRead_readQuantity _)
    case isFalse h =>
      exact .standard hlevy (fun hname hquantity => h ⟨hname, hquantity⟩)
        (quantityRead_readQuantity _)

/-- What may be read off a line of a sheet. -/
inductive LineRead (line : String) : Except Fault (Option Item) → Prop
  | passedOver (kept : ¬ IsKept line) : LineRead line (.ok none)
  | entered {price item} (kept : IsKept line) (short : ¬ IsOverlong line)
      (price_read : PriceRead (lineField line 2) (.ok price))
      (item_read : ItemRead (lineField line 0) (quantityField line) price item)
      (number : item.quantity ≠ .nan) : LineRead line (.ok (some item))
  | overlong (kept : IsKept line) (long : IsOverlong line)
      (price_read : PriceRead (lineField line 2) (.error .digitLimit)) :
      LineRead line (.error .digitLimit)

theorem lineRead_ofSheetLine? (line : String) : LineRead line (Item.ofSheetLine? line) := by
  have hprice := priceRead_readUnitPrice (lineField line 2)
  rw [readUnitPrice_lineField] at hprice
  rw [Item.ofSheetLine?_eq]
  by_cases hkept : IsKept line
  · rw [if_neg (not_not.2 hkept)]
    by_cases hlong : IsOverlong line
    · rw [if_pos hlong] at hprice ⊢
      exact .overlong hkept hlong hprice
    · rw [if_neg hlong] at hprice ⊢
      exact .entered hkept hlong hprice (itemRead_ofFields _ _ _)
        (isSized_enteredItem le_rfl hlong).2
  · rw [if_pos hkept]
    exact .passedOver hkept

/-! ## Sheets -/

/-- A sheet holds one item for each line that is not passed over, and is refused for a price that is
too long only. -/
theorem sheet_is_read (text : String) :
    (∀ line, LineRead line (Item.ofSheetLine? line)) ∧
      if ∃ line ∈ keptLines text, IsOverlong line then Item.ofSheet text = .error .digitLimit
      else ∃ items, Item.ofSheet text = .ok items ∧
        List.Forall₂ (fun line item => LineRead line (.ok (some item))) (keptLines text) items := by
  refine ⟨lineRead_ofSheetLine?, ?_⟩
  split
  case isTrue hlong => exact Item.ofSheet_eq_error hlong
  case isFalse hshort =>
    have hshort (line) (hline : line ∈ keptLines text) : ¬ IsOverlong line :=
      fun hlong => hshort ⟨line, hline, hlong⟩
    refine ⟨_, Item.ofSheet_eq_ok hshort, List.forall₂_map_right_iff.2 ?_⟩
    refine List.forall₂_same.2 fun line hline => ?_
    have := lineRead_ofSheetLine? line
    rwa [Item.ofSheetLine?_eq, if_neg (not_not.2 (mem_keptLines.1 hline).2),
      if_neg (hshort line hline)] at this

/-- A sheet with a price of one digit more than are read is refused. -/
theorem ofSheet_longSheet : Item.ofSheet Command.longSheet = .error .digitLimit := by
  have hlength : Command.longLine.price.length = 4301 := List.length_replicate
  have hlong : IsOverlong Command.longLine.text :=
    Command.longLine.isOverlong_iff.2 (by rw [hlength]; decide)
  exact Item.ofSheet_eq_error
    ⟨_, Command.mem_keptLines_sheetOf (by decide) Command.longLine, hlong⟩

end Billing

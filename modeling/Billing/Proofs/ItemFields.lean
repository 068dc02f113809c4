import Billing.Proofs.AddedLines
import Billing.Proofs.SheetReading
import Billing.Proofs.WrittenLines

/-!
# What every item has

Whatever a line holds, the item that is read off it has a name, a quantity text and a unit without
separators and without blanks at their ends, a quantity and a price that are not negative, and the
category that its first field and its quantity text ask for (`Item.IsWellFormed`,
`Item.HasCategoryOf`).

* `QuantityRead.isUnsigned`, `QuantityRead.isFieldText_unit`: what is read off a quantity field.
* `ItemRead.isWellFormed`, `ItemRead.hasCategoryOf`: what an item has that is read off fields.
* `item_of_line`: a line without a name enters nothing, and every other line an item of this kind,
  unless its price is too long.
-/

namespace Billing

open Text (isDigit IsBlank trim dropRightWhile)

/-! ## Fields -/

/-- A text that may be left of a field: no separators, and no blanks at its ends. -/
structure IsFieldText (s : List Char) : Prop where
  trim_eq : trim s = s
  isOneField : IsOneField s

instance (s : List Char) : Decidable (IsFieldText s) :=
  decidable_of_iff (trim s = s ∧ IsOneField s) ⟨fun h => ⟨h.1, h.2⟩, fun h => ⟨h.1, h.2⟩⟩

/-- A field that is not empty. -/
structure IsFilledField (s : List Char) : Prop extends IsFieldText s where
  ne_nil : s ≠ []

theorem IsOneField.isFieldText_trim {s : List Char} (h : IsOneField s) : IsFieldText (trim s) :=
  ⟨Text.trim_trim s, fun c hc => h c ((Text.trim_isInfix s).subset hc)⟩

theorem exists_fields_eq_cons (s : List Char) :
    ∃ rest, fields s = s.takeWhile (! isSeparator ·) :: rest := by
  rw [fields]
  split
  · rename_i hnone
    have hall := List.takeWhile_eq_self_iff.2 (List.dropWhile_eq_nil_iff.1 hnone)
    exact ⟨[], by rw [hall]⟩
  · exact ⟨_, rfl⟩

theorem isOneField_of_mem_fields {s field : List Char} (h : field ∈ fields s) :
    IsOneField field := by
  fun_induction fields s with
  | case1 s hnone =>
    obtain rfl := List.mem_singleton.1 h
    exact fun c hc => by simpa using List.dropWhile_eq_nil_iff.1 hnone c hc
  | case2 s _ rest _ ih =>
    obtain rfl | h := List.mem_cons.1 h
    · exact fun c hc => by simpa using List.mem_takeWhile_imp hc
    · exact ih h

/-- The text of a line before its first separator. -/
def firstText (line : String) : List Char := line.toList.takeWhile (! isSeparator ·)

/-- The field at a position of a line as it is, without the blanks around it; empty if there is
none. -/
def trimmedField (line : String) (i : Nat) : List Char := (trimmedFields line).getD i []

theorem trimmedField_zero (line : String) : trimmedField line 0 = trim (firstText line) := by
  obtain ⟨rest, hfields⟩ := exists_fields_eq_cons line.toList
  rw [trimmedField, trimmedFields, hfields]
  rfl

theorem isFieldText_trimmedField (line : String) (i : Nat) :
    IsFieldText (trimmedField line i) := by
  rw [trimmedField, trimmedFields, List.getD_eq_getElem?_getD, List.getElem?_map]
  cases hfield : (fields line.toList)[i]? with
  | none => exact (by decide : IsFieldText [])
  | some field => exact (isOneField_of_mem_fields (List.mem_of_getElem? hfield)).isFieldText_trim

/-! ## Quantities -/

namespace Binary64

theorem toRat_nonneg {x : Binary64} (h : x.signBit = false) : 0 ≤ x.toRat := by
  cases x with
  | finite s m =>
    obtain rfl : s = false := h
    exact m.toRat_nonneg
  | infinity | nan => exact le_rfl

/-- A number without a sign is not below zero. -/
theorem lt_zero {x : Binary64} (h : x.signBit = false) : lt x 0 = false := by
  have hzero : (0 : Binary64) = finite false .zero := rfl
  have hvalue : (finite false .zero).toRat = 0 := toRat_eq_zero rfl false
  rw [hzero]
  cases x with
  | finite s m => simpa [lt, hvalue] using toRat_nonneg h
  | infinity s => exact h
  | nan => rfl

end Binary64

theorem Writes.signBit_toBinary64 {s : List Char} {n : Numeral} (h : Writes s n) :
    n.toBinary64.signBit = false := by
  cases h <;> exact Binary64.signBit_ofDecimal _ _ _

namespace QuantityRead

variable {s : List Char} {q : Binary64 × String}

/-- Whatever stands in a field, what is read off it is a number without a sign. -/
theorem isUnsigned (h : QuantityRead s q) : q.1 ≠ .nan ∧ q.1.signBit = false := by
  cases h with
  | lumpSum => exact ⟨Binary64.ofQuotient_ne_nan false 1 1, Binary64.signBit_ofQuotient false 1 1⟩
  | malformed => exact ⟨Binary64.ofQuotient_ne_nan false 0 1, Binary64.signBit_ofQuotient false 0 1⟩
  | number _ writes _ _ read =>
    obtain rfl := Option.some.inj (writes.read?.symm.trans read)
    exact ⟨Binary64.ofDecimal_ne_nan _ _ _, writes.signBit_toBinary64⟩

theorem isFieldText_unit (h : QuantityRead s q) (hs : IsOneField s) :
    IsFieldText q.2.toList := by
  cases h with
  | lumpSum => decide
  | malformed => decide
  | @number t rest n q text =>
    have hrest : IsOneField rest := (List.forall_mem_append.1 (text ▸ hs)).2
    rw [String.toList_ofList]
    exact hrest.isFieldText_trim

end QuantityRead

/-- Whether a quantity text stands for a percentage: it ends in a percent sign or is a number to
its end. -/
def IsPercentageText (s : List Char) : Prop := s.getLast? = some '%' ∨ ∃ n, Writes s n

theorem isPercentage_iff (s : List Char) : isPercentage s ↔ IsPercentageText s := by
  have hnumber : isBareNumber s ↔ ∃ n, Writes s n := by
    unfold isBareNumber
    constructor
    · intro h
      split at h
      · rename_i n hread
        obtain ⟨t, hwrites, rfl⟩ := exists_writes_of_leadingNumber? hread
        exact ⟨n, by rwa [List.append_nil]⟩
      · cases h
    · rintro ⟨n, hwrites⟩
      rw [hwrites.leadingNumber?_self]
  rw [isPercentage, Bool.or_eq_true, decide_eq_true_eq, hnumber, IsPercentageText]

/-! ## Items -/

namespace Item

/-- What pricing and layout rely on, whatever line an item is read off. -/
structure IsWellFormed (x : Item) : Prop where
  name : IsFilledField x.name.toList
  quantityText : IsFilledField x.quantityText.toList
  unit : IsFieldText x.unit.toList
  quantity_ne_nan : x.quantity ≠ .nan
  quantity_nonneg : Binary64.lt x.quantity 0 = false
  unitPrice_nonneg : 0 ≤ x.unitPrice

/-- The category of an item is the one that the first field of its line and its quantity text ask
for, and decides what else the item has. -/
structure HasCategoryOf (first : List Char) (x : Item) : Prop where
  levy_iff : x.category = .welfareLevy ↔ levyName.toList <:+: first
  levy : x.category = .welfareLevy →
    x.name = levyName ∧ x.quantity = 1 ∧ x.unit = lumpSumUnit ∧ x.unitPrice = 0
  surcharge_iff : x.category = .percentageSurcharge ↔ surchargeName.toList <:+: first ∧
    ¬ levyName.toList <:+: first ∧ IsPercentageText x.quantityText.toList
  surcharge : x.category = .percentageSurcharge → x.name = surchargeName ∧ x.unit = "%"
  standard : x.category = .standard → x.name = String.ofList first

end Item

namespace ItemRead

variable {name quantity : List Char} {price : Nat} {x : Item}

theorem isWellFormed (h : ItemRead name quantity price x) (hname : IsFilledField name)
    (hquantity : IsFilledField quantity) : x.IsWellFormed := by
  have hlevy : IsFilledField levyName.toList := ⟨by decide, by decide⟩
  have hsurcharge : IsFilledField surchargeName.toList := ⟨by decide, by decide⟩
  have hone : (1 : Binary64).signBit = false := Binary64.signBit_ofQuotient false 1 1
  have hprice := Int.natCast_nonneg price
  rw [← String.toList_ofList (l := name)] at hname
  have htext := hquantity
  rw [← String.toList_ofList (l := quantity)] at htext
  cases h with
  | levy =>
    exact ⟨hlevy, htext, (by decide : IsFieldText lumpSumUnit.toList),
      Binary64.ofQuotient_ne_nan false 1 1, Binary64.lt_zero hone, le_rfl⟩
  | surcharge _ _ _ read =>
    obtain ⟨hnumber, hsign⟩ := read.isUnsigned
    exact ⟨hsurcharge, htext, (by decide : IsFieldText "%".toList), hnumber,
      Binary64.lt_zero hsign, hprice⟩
  | standard _ _ read =>
    obtain ⟨hnumber, hsign⟩ := read.isUnsigned
    exact ⟨hname, htext, read.isFieldText_unit hquantity.isOneField, hnumber,
      Binary64.lt_zero hsign, hprice⟩

theorem hasCategoryOf (h : ItemRead name quantity price x) : x.HasCategoryOf name := by
  have hpercentage : isPercentage quantity ↔ IsPercentageText (String.ofList quantity).toList := by
    rw [String.toList_ofList, isPercentage_iff]
  cases h with
  | levy name_levy =>
    exact
      { levy_iff := iff_of_true rfl name_levy
        levy := fun _ => ⟨rfl, rfl, rfl, rfl⟩
        surcharge_iff := iff_of_false nofun fun h => h.2.1 name_levy
        surcharge := nofun
        standard := nofun }
  | surcharge name_levy name_surcharge quantity_percentage =>
    exact
      { levy_iff := iff_of_false nofun name_levy
        levy := nofun
        surcharge_iff :=
          iff_of_true rfl ⟨name_surcharge, name_levy, hpercentage.1 quantity_percentage⟩
        surcharge := fun _ => ⟨rfl, rfl⟩
        standard := nofun }
  | standard name_levy name_surcharge =>
    exact
      { levy_iff := iff_of_false nofun name_levy
        levy := nofun
        surcharge_iff := iff_of_false nofun fun h => name_surcharge h.1 (hpercentage.2 h.2.2)
        surcharge := nofun
        standard := fun _ => rfl }

end ItemRead

/-! ## Lines -/

/-- The digits that the third field of a line starts with. -/
def trimmedPriceDigits (line : String) : List Char := (trimmedField line 2).takeWhile isDigit

theorem trimmedField_zero_eq_nil_iff (line : String) :
    trimmedField line 0 = [] ↔ IsBlank (firstText line) := by
  rw [trimmedField_zero]
  exact ⟨fun h => by_contra fun hblank => Text.trim_ne_nil hblank h, Text.trim_of_isBlank⟩

theorem Item.ofLine?_of_isBlank {line : String} (h : IsBlank (firstText line)) :
    ofLine? line = .ok none :=
  (ofLine?_eq_trimmedFields line).trans (if_pos ((trimmedField_zero_eq_nil_iff line).2 h))

/-- The second field of a line as it is; a missing one is zero. -/
def trimmedQuantity (line : String) : List Char :=
  if trimmedField line 1 = [] then ['0'] else trimmedField line 1

theorem isFilledField_trimmedQuantity (line : String) : IsFilledField (trimmedQuantity line) := by
  unfold trimmedQuantity
  split
  case isTrue => exact ⟨by decide, by decide⟩
  case isFalse hsome => exact ⟨isFieldText_trimmedField line 1, hsome⟩

/-- A line with a name enters the item of its fields, unless its price is too long. -/
theorem Item.ofLine?_of_not_isBlank {line : String} (h : ¬ IsBlank (firstText line)) :
    ofLine? line =
      if Text.digitLimit < (trimmedPriceDigits line).length then .error .digitLimit
      else .ok (some (ofFields (trim (firstText line)) (trimmedQuantity line)
        (Text.digitsValue (trimmedPriceDigits line)))) := by
  have hsome := mt (trimmedField_zero_eq_nil_iff line).1 h
  rw [ofLine?_eq_trimmedFields, ← trimmedField, if_neg hsome, ← trimmedField, ← trimmedField,
    ← trimmedQuantity, trimmedField_zero, readUnitPrice, ← trimmedPriceDigits, Number.readDigits]
  by_cases hlong : Text.digitLimit < (trimmedPriceDigits line).length
  · rw [if_pos hlong, if_neg (not_le.2 hlong)]
    rfl
  · rw [if_neg hlong, if_pos (not_lt.1 hlong)]
    rfl

/-- Every item that is read off a line is well-formed and has the category that the line asks for.
A line enters nothing if its text before the first separator is blank, and is refused otherwise only
for a price that is too long. -/
theorem item_of_line (line : String) :
    (Item.ofLine? line = .ok none ↔ IsBlank (firstText line)) ∧
      (∀ x, Item.ofLine? line = .ok (some x) →
        x.IsWellFormed ∧ x.HasCategoryOf (trim (firstText line))) ∧
      (∀ cause, Item.ofLine? line = .error cause ↔ cause = .digitLimit ∧
        ¬ IsBlank (firstText line) ∧ Text.digitLimit < (trimmedPriceDigits line).length) := by
  by_cases hblank : IsBlank (firstText line)
  · simp [Item.ofLine?_of_isBlank hblank, hblank]
  · have hfirst : IsFilledField (trim (firstText line)) :=
      ⟨trimmedField_zero line ▸ isFieldText_trimmedField line 0, Text.trim_ne_nil hblank⟩
    have hread := itemRead_ofFields (trim (firstText line)) (trimmedQuantity line)
      (Text.digitsValue (trimmedPriceDigits line))
    have hitem := And.intro (hread.isWellFormed hfirst (isFilledField_trimmedQuantity line))
      hread.hasCategoryOf
    rw [Item.ofLine?_of_not_isBlank hblank]
    split
    case isTrue hlong => simp [hblank, hlong, eq_comm]
    case isFalse hshort => simpa [hblank, hshort] using hitem

/-- Overheads of seven and a half percent, with blanks and separators of several kinds. -/
def overheadsLine : String := "　現場諸経費 ,，\t ７.5 % \t\n3500円"

def overheadsItem : Item :=
  { name := "諸経費", quantityText := "７.5 %", quantity := .ofRat (15 / 2), unit := "%",
    unitPrice := 3500, category := .percentageSurcharge }

theorem item_of_overheadsLine :
    Item.ofLine? overheadsLine = .ok (some overheadsItem) ∧ overheadsItem.IsWellFormed ∧
      overheadsItem.HasCategoryOf "現場諸経費".toList ∧
      (Item.ofLine? "\n　,5,100" = .ok none ∧ IsBlank (firstText "\n　,5,100")) := by
  have hfirst : trim (firstText overheadsLine) = "現場諸経費".toList := by cbv
  have hquantity : trimmedQuantity overheadsLine = "７.5 %".toList := by cbv
  have hprice : trimmedPriceDigits overheadsLine = "3500".toList := by cbv
  have hitem : Item.ofFields "現場諸経費".toList "７.5 %".toList (Text.digitsValue "3500".toList) =
      overheadsItem := by decide +kernel
  have hsome : ¬ IsBlank (firstText overheadsLine) := by
    intro hblank
    have htrim := Text.trim_of_isBlank hblank
    rw [hfirst] at htrim
    simp at htrim
  have hline : Item.ofLine? overheadsLine = .ok (some overheadsItem) := by
    rw [Item.ofLine?_of_not_isBlank hsome, hprice, hfirst, hquantity, hitem]
    rfl
  obtain ⟨hformed, hcategory⟩ := (item_of_line overheadsLine).2.1 overheadsItem hline
  have hblank : IsBlank (firstText "\n　,5,100") := by
    have htext : firstText "\n　,5,100" = ['\n', '　'] := by cbv
    rw [htext]
    exact List.forall_mem_cons.2 ⟨by decide, List.forall_mem_singleton.2 (by decide)⟩
  exact ⟨hline, hformed, hfirst ▸ hcategory, (item_of_line _).1.2 hblank, hblank⟩

end Billing

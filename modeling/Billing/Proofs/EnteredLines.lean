import Billing.Proofs.Number.Written
import Billing.Proofs.Sheets
import Billing.Proofs.Trimming
import Billing.Proofs.Wrapping

/-!
# Lines as they are entered

A line that enters a standard item holds a name, a number in ASCII digits with a unit, and a price
in such digits (`EnteredLine`).

* `WrittenNumber.readQuantity_append`: a number is read off the start of a quantity field.
* `EnteredLine.lineFields_text`: the three fields that are read off such a line.
* `EnteredLine.ofSheet_text`: a sheet of one such line holds one item, which has its fields.
-/

namespace Billing

open Text (isBlank isDigit IsBlank trim trimRight halfWidth)

/-! ## Digits -/

namespace Text

theorem halfWidth_of_isDigit {c : Char} (h : c.isDigit) : halfWidth c = c :=
  of_isDigit (p := fun c => halfWidth c = c) (by decide) h

end Text

/-! ## Fields -/

/-- A text that stays in one field of one line: it has no commas, tabs and newlines. -/
def IsField (s : List Char) : Prop := ∀ c ∈ s, c ∉ [',', '，', '、', '\t', '\n']

instance (s : List Char) : Decidable (IsField s) :=
  List.decidableBAll (fun c => c ∉ [',', '，', '、', '\t', '\n']) s

theorem isSeparator_halfWidth (c : Char) :
    isSeparator (halfWidth c) = decide (c ∈ [',', '，', '、', '\t']) := by
  obtain h | ⟨rfl | rfl, h⟩ | ⟨n, hn, rfl, h⟩ := Text.halfWidth_eq_or c
  · have : c ≠ '、' := by
      rintro rfl
      exact absurd h (by decide)
    simp [h, isSeparator, this, Bool.or_assoc, beq_eq_decide]
  · rw [h]
    decide
  · rw [h]
    decide
  · rw [h]
    exact (by decide : ∀ n < 10, isSeparator (Char.ofNat (0x30 + n)) =
      decide (Char.ofNat (0xFF10 + n) ∈ [',', '，', '、', '\t'])) n hn

theorem IsField.isSeparator_halfWidth {s : List Char} (h : IsField s) :
    ∀ c ∈ s.map halfWidth, isSeparator c = false := by
  intro c hc
  obtain ⟨d, hd, rfl⟩ := List.mem_map.1 hc
  have := h d hd
  rw [Billing.isSeparator_halfWidth, decide_eq_false_iff_not]
  simp_all

theorem IsField.newline_not_mem {s : List Char} (h : IsField s) : '\n' ∉ s :=
  fun hmem => h _ hmem (by decide)

theorem isSeparator_of_isDigit {c : Char} (h : c.isDigit) : isSeparator c = false :=
  Text.of_isDigit (p := (isSeparator · = false)) (by decide) h

theorem fields_of_forall {s : List Char} (hs : ∀ c ∈ s, isSeparator c = false) :
    fields s = [s] := by
  have hdrop : s.dropWhile (! isSeparator ·) = [] :=
    List.dropWhile_eq_nil_iff.2 fun c hc => by simp [hs c hc]
  rw [fields]
  split
  · rfl
  · simp_all

theorem fields_append_cons {s : List Char} {c : Char} (hs : ∀ c ∈ s, isSeparator c = false)
    (hc : isSeparator c) (rest : List Char) :
    fields (s ++ c :: rest) = s :: fields (rest.dropWhile isSeparator) := by
  have hs c (hc : c ∈ s) : (! isSeparator c) = true := by simp [hs c hc]
  have htake : (s ++ c :: rest).takeWhile (! isSeparator ·) = s := by
    rw [List.takeWhile_append_of_pos hs, List.takeWhile_cons_of_neg (by simp [hc]), List.append_nil]
  have hdrop : (s ++ c :: rest).dropWhile (! isSeparator ·) = c :: rest := by
    rw [List.dropWhile_append_of_pos hs, List.dropWhile_cons_of_neg (by simp [hc])]
  rw [fields]
  split
  · simp_all
  · rename_i h
    obtain ⟨-, rfl⟩ := List.cons.inj (h.symm.trans hdrop)
    rw [htake]

/-! ## Numbers -/

/-- A number in ASCII digits: digits, digits with a point, or a point and digits. -/
structure WrittenNumber where
  whole : List Char
  /-- The digits after the point, if there is a point. -/
  fraction : Option (List Char)
  allDigits : ∀ c ∈ whole ++ fraction.getD [], c.isDigit
  ne_nil : whole ++ fraction.getD [] ≠ []

namespace WrittenNumber

/-- All digits, without the point. -/
def digits (n : WrittenNumber) : List Char := n.whole ++ n.fraction.getD []

/-- The number of digits after the point. -/
def places (n : WrittenNumber) : Nat := (n.fraction.getD []).length

def text (n : WrittenNumber) : List Char := n.whole ++ (n.fraction.map ('.' :: ·)).getD []

/-- The exact value. -/
def value (n : WrittenNumber) : Rat := Nat.ofDigitChars 10 n.digits 0 / 10 ^ n.places

/-- The nearest binary64 number. -/
def toBinary64 (n : WrittenNumber) : Binary64 :=
  .ofDecimal false (Nat.ofDigitChars 10 n.digits 0) (-n.places)

theorem isDigit_or_eq_point (n : WrittenNumber) : ∀ c ∈ n.text, c.isDigit ∨ c = '.' := by
  intro c hc
  have hdigit := n.allDigits
  obtain hc | hc := List.mem_append.1 hc
  · exact .inl (hdigit c (List.mem_append_left _ hc))
  · cases hf : n.fraction with
    | none => simp [hf] at hc
    | some f =>
      obtain rfl | hc := List.mem_cons.1 (by simpa [hf] using hc)
      · exact .inr rfl
      · exact .inl (hdigit c (by simp [hf, hc]))

theorem isBlank_text (n : WrittenNumber) : ∀ c ∈ n.text, isBlank c = false := by
  intro c hc
  obtain hdigit | rfl := n.isDigit_or_eq_point c hc
  · exact Text.isBlank_of_isDigit hdigit
  · decide

theorem isSeparator_text (n : WrittenNumber) :
    ∀ c ∈ n.text, isSeparator c = false := by
  intro c hc
  obtain hdigit | rfl := n.isDigit_or_eq_point c hc
  · exact isSeparator_of_isDigit hdigit
  · decide

theorem text_ne_nil (n : WrittenNumber) : n.text ≠ [] := by
  have := n.ne_nil
  unfold text
  cases hf : n.fraction <;> simp_all

/-- The number is one in digits of some script. -/
theorem writes (n : WrittenNumber) : Writes n.text ⟨false, n.whole, n.fraction.getD [], 0⟩ := by
  obtain ⟨whole, fraction, allDigits, some⟩ := n
  have hdigits (c) (hc : c ∈ whole ++ fraction.getD []) := Text.isDigit_of_isDigit (allDigits c hc)
  obtain ⟨hwhole, hfraction⟩ := List.forall_mem_append.1 hdigits
  cases fraction with
  | none =>
    simp only [text, Option.map_none, Option.getD_none, List.append_nil] at some ⊢
    exact .whole some hwhole
  | some fraction =>
    by_cases hnil : whole = []
    · subst hnil
      exact .fraction some hfraction
    · exact .point hnil hwhole hfraction

theorem toBinary64_numeral (n : WrittenNumber) :
    (⟨false, n.whole, n.fraction.getD [], 0⟩ : Numeral).toBinary64 = n.toBinary64 := by
  rw [Numeral.toBinary64, Numeral.coefficient, Numeral.lastPlace, Text.digitsValue_eq n.allDigits,
    zero_sub]
  rfl

/-- Nothing of a number is cut off with the blanks around it. -/
theorem trim_append (n : WrittenNumber) (rest : List Char) :
    trim (n.text ++ rest) = n.text ++ trimRight rest :=
  Text.trim_append_of_forall n.text_ne_nil n.isBlank_text rest

/-- A number is read off the start of a quantity field, whatever follows it but a digit or a
point. -/
theorem readQuantity_append (n : WrittenNumber) (rest : List Char)
    (hrest : ∀ c ∈ rest.head?, isDigit c = false ∧ c ≠ '.') (hline : '\n' ∉ rest) :
    readQuantity (n.text ++ rest) = (n.toBinary64, String.ofList (trim rest)) := by
  rw [readQuantity, if_neg (n.writes.append_ne_lumpSum rest),
    n.writes.leadingNumber?_append rest hrest]
  simp only [if_neg hline, n.toBinary64_numeral]

end WrittenNumber

theorem readUnitPrice_of_forall {s : List Char} (hs : ∀ c ∈ s, c.isDigit)
    (hlength : s.length ≤ Text.digitLimit) : readUnitPrice s = .ok (Nat.ofDigitChars 10 s 0) := by
  have htake : s.takeWhile isDigit = s :=
    List.takeWhile_eq_self_iff.2 fun c hc => Text.isDigit_of_isDigit (hs c hc)
  rw [readUnitPrice, htake, Number.readDigits, if_pos hlength, Text.digitsValue_eq hs]

/-! ## Lines -/

/-- A line that enters a standard item: a name that is not that of the levy or of a surcharge, a
number with a unit, and a price. -/
structure EnteredLine where
  name : List Char
  number : WrittenNumber
  unit : List Char
  price : List Char
  name_not_blank : ¬ IsBlank name
  name_isField : IsField name
  name_not_levy : ¬ levyName.toList <:+: name
  name_not_surcharge : ¬ surchargeName.toList <:+: name
  unit_isField : IsField unit
  unit_head : ∀ c ∈ unit.head?, isDigit c = false ∧ c ≠ '.'
  price_isDigit : ∀ c ∈ price, c.isDigit

namespace EnteredLine

/-- The quantity field. -/
def quantity (l : EnteredLine) : List Char := l.number.text ++ l.unit

/-- The line: its fields, divided by commas and spaces. -/
def text (l : EnteredLine) : String :=
  String.ofList (l.name ++ ',' :: ' ' :: (l.quantity ++ ',' :: ' ' :: l.price))

/-- The item that the line enters. -/
def item (l : EnteredLine) : Item where
  name := String.ofList ((trim l.name).map halfWidth)
  quantityText := String.ofList ((trim l.quantity).map halfWidth)
  quantity := l.number.toBinary64
  unit := String.ofList ((trim l.unit).map halfWidth)
  unitPrice := Nat.ofDigitChars 10 l.price 0

theorem map_halfWidth_number (l : EnteredLine) : l.number.text.map halfWidth = l.number.text := by
  refine Text.map_halfWidth_of_forall fun c hc => ?_
  obtain hdigit | rfl := l.number.isDigit_or_eq_point c hc
  · exact Text.halfWidth_of_isDigit hdigit
  · decide

theorem trim_quantity (l : EnteredLine) :
    trim l.quantity = l.number.text ++ trimRight l.unit :=
  l.number.trim_append l.unit

/-- A name of something else that is not part of the name is not part of it in half width. -/
theorem contains_name (l : EnteredLine) {w : String}
    (hw : w.toList.all fun c => c ≠ ',' ∧ isDigit c = false) (h : ¬ w.toList <:+: l.name) :
    Text.contains w.toList ((trim l.name).map halfWidth) = false := by
  have hw (c) (hc : c ∈ w.toList) := of_decide_eq_true (List.all_eq_true.1 hw c hc)
  rw [← Bool.not_eq_true, Text.contains_iff]
  exact fun hpart => h ((Text.isInfix_of_map_halfWidth hw hpart).trans (Text.trim_isInfix _))

theorem readQuantity_eq (l : EnteredLine) :
    readQuantity ((trim l.quantity).map halfWidth) =
      (l.number.toBinary64, String.ofList ((trim l.unit).map halfWidth)) := by
  have hpoint : ('.' : Char) ≠ ',' ∧ isDigit '.' = false := by decide
  have hnewline : ('\n' : Char) ≠ ',' ∧ isDigit '\n' = false := by decide
  have hhead : ∀ c ∈ ((trimRight l.unit).map halfWidth).head?, isDigit c = false ∧ c ≠ '.' := by
    intro c hc
    rw [List.head?_map, Option.mem_map] at hc
    obtain ⟨d, hd, rfl⟩ := hc
    obtain ⟨hdigit, hd⟩ := l.unit_head d (Text.mem_head?_of_trimRight hd)
    refine ⟨by rwa [Text.isDigit_halfWidth], fun h => hd ?_⟩
    exact Text.eq_of_halfWidth_eq hpoint.1 hpoint.2 h
  have hline : '\n' ∉ (trimRight l.unit).map halfWidth := by
    intro hmem
    obtain ⟨d, hd, h⟩ := List.mem_map.1 hmem
    obtain rfl := Text.eq_of_halfWidth_eq hnewline.1 hnewline.2 h
    exact l.unit_isField.newline_not_mem ((Text.trimRight_isPrefix l.unit).subset hd)
  rw [trim_quantity, List.map_append, map_halfWidth_number,
    l.number.readQuantity_append _ hhead hline, Text.trim_map_halfWidth, Text.trim_trimRight]

theorem ofFields_eq (l : EnteredLine) :
    Item.ofFields ((trim l.name).map halfWidth) ((trim l.quantity).map halfWidth)
      (Nat.ofDigitChars 10 l.price 0) = l.item := by
  rw [Item.ofFields, if_neg, if_neg, readQuantity_eq]
  · rfl
  · simp [l.contains_name (by decide) l.name_not_surcharge]
  · simp [l.contains_name (by decide) l.name_not_levy]

/-- Blanks around a line belong to its outer fields, and stay with them until these are trimmed. -/
theorem exists_trim_text (l : EnteredLine) :
    ∃ first, trim l.text.toList = first ++ ',' :: ' ' :: (l.quantity ++ ',' ::
        trimRight (' ' :: l.price)) ∧ trim first = trim l.name ∧ first <:+: l.name := by
  obtain ⟨blanks, c, rest, hname, hblanks, hc⟩ := Text.exists_of_not_isBlank l.name_not_blank
  have hcomma : isBlank ',' = false := by decide
  refine ⟨c :: rest, ?_, ?_, ?_⟩
  · have hline : l.text.toList = blanks ++ c :: (rest ++ ',' :: ' ' :: l.quantity ++
        ',' :: ' ' :: l.price) := by
      simp [text, hname]
    rw [hline, Text.trim_append_cons hblanks hc, Text.trimRight_append_cons hcomma]
    simp
  · rw [hname, Text.trim_cons hc, Text.trim_append_cons hblanks hc]
  · rw [hname]
    exact (List.suffix_append _ _).isInfix

theorem map_halfWidth_price (l : EnteredLine) :
    (trimRight (' ' :: l.price)).map halfWidth = trimRight (' ' :: l.price) := by
  refine Text.map_halfWidth_of_forall fun c hc => ?_
  obtain rfl | hc := List.mem_cons.1 ((Text.trimRight_isPrefix _).subset hc)
  · decide
  · exact Text.halfWidth_of_isDigit (l.price_isDigit c hc)

/-- The line in half width has three fields. -/
theorem exists_fields (l : EnteredLine) :
    ∃ first, fields ((trim l.text.toList).map halfWidth) =
        [first.map halfWidth, ' ' :: l.quantity.map halfWidth, trimRight (' ' :: l.price)] ∧
      trim first = trim l.name := by
  obtain ⟨first, hline, hfirst, hpart⟩ := l.exists_trim_text
  have hname (c) (hc : c ∈ first.map halfWidth) : isSeparator c = false :=
    l.name_isField.isSeparator_halfWidth c ((hpart.map halfWidth).subset hc)
  have hquantity : ∀ c ∈ ' ' :: l.quantity.map halfWidth, isSeparator c = false := by
    rw [quantity, List.map_append, map_halfWidth_number, List.forall_mem_cons,
      List.forall_mem_append]
    exact ⟨by decide, l.number.isSeparator_text, l.unit_isField.isSeparator_halfWidth⟩
  have hprice : ∀ c ∈ trimRight (' ' :: l.price), isSeparator c = false := by
    intro c hc
    obtain rfl | hc := List.mem_cons.1 ((Text.trimRight_isPrefix _).subset hc)
    · decide
    · exact isSeparator_of_isDigit (l.price_isDigit c hc)
  have hblank : isSeparator ' ' = false := by decide
  refine ⟨first, ?_, hfirst⟩
  have hmap : (trim l.text.toList).map halfWidth = first.map halfWidth ++ ',' ::
      ((' ' :: l.quantity.map halfWidth) ++ ',' :: trimRight (' ' :: l.price)) := by
    rw [hline]
    simp only [List.map_append, List.map_cons, map_halfWidth_price, List.cons_append]
    rfl
  rw [hmap, fields_append_cons hname (by decide), List.cons_append,
    List.dropWhile_cons_of_neg (by simp [hblank]), ← List.cons_append,
    fields_append_cons hquantity (by decide), List.dropWhile_eq_self_iff.2, fields_of_forall hprice]
  intro hlength
  simp [hprice _ (List.getElem_mem hlength)]

theorem lineFields_text (l : EnteredLine) :
    lineFields l.text =
      [(trim l.name).map halfWidth, (trim l.quantity).map halfWidth, l.price] := by
  obtain ⟨first, hfields, hfirst⟩ := l.exists_fields
  have hblank : isBlank ' ' := by decide
  have hprice : trim (trimRight (' ' :: l.price)) = l.price := by
    rw [Text.trim_trimRight, Text.trim_cons_of_isBlank hblank]
    exact Text.trim_of_forall fun c hc => Text.isBlank_of_isDigit (l.price_isDigit c hc)
  rw [lineFields, Text.toHalfWidth, Text.strip, String.toList_ofList, String.toList_ofList, hfields]
  simp only [List.map_cons, List.map_nil, Text.trim_map_halfWidth, hfirst,
    Text.trim_cons_of_isBlank hblank, hprice]

theorem isKept (l : EnteredLine) : IsKept l.text := by
  have hname : lineField l.text 0 ≠ [] := by
    rw [lineField, lineFields_text]
    exact fun h => Text.trim_ne_nil l.name_not_blank (List.map_eq_nil_iff.1 h)
  exact ⟨fun hblank => hname (lineField_zero_of_blank hblank), hname⟩

theorem isOverlong_iff (l : EnteredLine) :
    IsOverlong l.text ↔ Text.digitLimit < l.price.length := by
  have hdigits : ∀ c ∈ l.price, isDigit c :=
    fun c hc => Text.isDigit_of_isDigit (l.price_isDigit c hc)
  rw [IsOverlong, priceDigits, lineField, lineFields_text, List.getD_cons_succ, List.getD_cons_succ,
    List.getD_cons_zero, List.takeWhile_eq_self_iff.2 hdigits]

theorem ofLine?_text (l : EnteredLine) (hprice : l.price.length ≤ Text.digitLimit) :
    Item.ofLine? (Text.toHalfWidth (Text.strip l.text)) = .ok (some l.item) := by
  have hmap := l.lineFields_text
  rw [lineFields] at hmap
  have hnameNe : (trim l.name).map halfWidth ≠ [] :=
    fun h => Text.trim_ne_nil l.name_not_blank (List.map_eq_nil_iff.1 h)
  have hquantityNe : (trim l.quantity).map halfWidth ≠ [] := by
    simp [l.trim_quantity, l.number.text_ne_nil]
  obtain ⟨c, name, hname⟩ := List.exists_cons_of_ne_nil hnameNe
  obtain ⟨d, quantity, hquantity⟩ := List.exists_cons_of_ne_nil hquantityNe
  rw [← l.ofFields_eq]
  rw [hname, hquantity] at hmap ⊢
  simp only [Item.ofLine?, hmap, readUnitPrice_of_forall l.price_isDigit hprice]
  rfl

theorem not_mem_text (l : EnteredLine) {c : Char} (hc : c ∉ [',', ' ', '.']) (hdigit : ¬ c.isDigit)
    (hname : c ∉ l.name) (hunit : c ∉ l.unit) : c ∉ l.text.toList := by
  simp only [List.mem_cons, List.not_mem_nil, or_false, not_or] at hc
  have hnumber : c ∉ l.number.text := fun h =>
    (l.number.isDigit_or_eq_point _ h).elim hdigit hc.2.2
  have hprice : c ∉ l.price := fun h => hdigit (l.price_isDigit _ h)
  simp [text, quantity, hname, hunit, hnumber, hprice, hc]

theorem newline_not_mem (l : EnteredLine) : '\n' ∉ l.text.toList :=
  l.not_mem_text (by decide) (by decide) l.name_isField.newline_not_mem
    l.unit_isField.newline_not_mem

/-- A sheet of one line that enters a standard item holds that item. -/
theorem ofSheet_text (l : EnteredLine) (hprice : l.price.length ≤ Text.digitLimit) :
    Item.ofSheet l.text = .ok [l.item] := by
  have hlines : Text.lines l.text = [l.text] := by
    rw [Text.lines, Text.pieces, Text.splitOn_of_not_mem l.newline_not_mem, List.map_singleton,
      String.ofList_toList]
  have hsome : (Text.strip l.text).isEmpty = false := by
    obtain ⟨first, hline, -⟩ := l.exists_trim_text
    rw [Text.strip, hline]
    simp
  have hline : Item.ofSheetLine? l.text = .ok (some l.item) := by
    rw [Item.ofSheetLine?, hsome]
    exact l.ofLine?_text hprice
  rw [Item.ofSheet, hlines, List.mapM_cons, hline]
  rfl

end EnteredLine

end Billing

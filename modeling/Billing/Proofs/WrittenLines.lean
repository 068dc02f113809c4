import Billing.Proofs.EnteredLines

/-!
# Lines with blanks around their fields

A line is written with a name, a quantity and a price in fields that stand apart: any run of
separators divides two of them, and blanks may stand around each (`WrittenLine`). The quantity is a
number, blanks and a unit (`WrittenQuantity`), or a lump sum; anything may follow the digits of the
price. What is written is what is read.

* `WrittenLine.ofLine?_text`: the fields are read without the blanks around them.
* `WrittenQuantity.readQuantity_trim`: the number and the unit are read off the quantity.
* `item_of_written`: the item that such a line enters.
-/

namespace Billing

open Text (isBlank isDigit trim trimRight dropRightWhile IsBlank)

/-! ## Blanks -/

/-- A text without separators. -/
def IsOneField (s : List Char) : Prop := ∀ c ∈ s, isSeparator c = false

instance (s : List Char) : Decidable (IsOneField s) :=
  List.decidableBAll (fun c => isSeparator c = false) s

namespace Text

theorem isBlank_of_digit {c : Char} (h : isDigit c) : isBlank c = false :=
  forall_isDigit (p := (isBlank · = false)) (by decide +kernel) h

end Text

/-- Blanks that may stand around a field: all but tabs, which divide fields, and newlines. -/
def IsSpacing (s : List Char) : Prop := ∀ c ∈ s, isBlank c ∧ c ≠ '\t' ∧ c ≠ '\n'

instance (s : List Char) : Decidable (IsSpacing s) :=
  List.decidableBAll (fun c => isBlank c ∧ c ≠ '\t' ∧ c ≠ '\n') s

namespace IsSpacing

variable {s : List Char}

theorem isBlank (h : IsSpacing s) : IsBlank s := fun c hc => (h c hc).1

theorem isOneField (h : IsSpacing s) : IsOneField s := by
  intro c hc
  obtain ⟨hblank, htab, -⟩ := h c hc
  have hcomma : c ≠ ',' := by
    rintro rfl
    exact absurd hblank (by decide)
  have hwide : c ≠ '，' := by
    rintro rfl
    exact absurd hblank (by decide)
  simp [isSeparator, hcomma, hwide, htab]

theorem newline_not_mem (h : IsSpacing s) : '\n' ∉ s := fun hmem => (h _ hmem).2.2 rfl

end IsSpacing

/-- The blanks before and after a field. -/
structure Margins where
  before : List Char := []
  after : List Char := []
  before_isSpacing : IsSpacing before := by decide
  after_isSpacing : IsSpacing after := by decide

namespace Margins

/-- A field between its blanks. -/
def around (m : Margins) (s : List Char) : List Char := m.before ++ s ++ m.after

theorem trim_around (m : Margins) (s : List Char) : trim (m.around s) = trim s := by
  rw [around, Text.trim_append_right m.after_isSpacing.isBlank,
    Text.trim_append_left m.before_isSpacing.isBlank]

theorem isOneField_around (m : Margins) {s : List Char} (h : IsOneField s) :
    IsOneField (m.around s) :=
  List.forall_mem_append.2
    ⟨List.forall_mem_append.2 ⟨m.before_isSpacing.isOneField, h⟩, m.after_isSpacing.isOneField⟩

theorem around_ne_nil (m : Margins) {s : List Char} (h : s ≠ []) : m.around s ≠ [] := by
  simp [around, h]

end Margins

/-! ## Dividers -/

/-- What divides two fields: separators, and at least one. -/
def IsDivider (s : List Char) : Prop := s ≠ [] ∧ s.all isSeparator

instance (s : List Char) : Decidable (IsDivider s) := inferInstanceAs (Decidable (_ ∧ _))

theorem fields_append_divider {s divider rest : List Char} (hs : IsOneField s)
    (hdivider : IsDivider divider) (hrest : ∀ c ∈ rest.head?, isSeparator c = false) :
    fields (s ++ (divider ++ rest)) = s :: fields rest := by
  obtain ⟨some, hdivider⟩ := hdivider
  obtain ⟨c, divider, rfl⟩ := List.exists_cons_of_ne_nil some
  obtain ⟨hc, hdivider⟩ := List.forall_mem_cons.1 (List.all_eq_true.1 hdivider)
  have hdrop : rest.dropWhile isSeparator = rest := by
    cases rest with
    | nil => rfl
    | cons d rest => exact List.dropWhile_cons_of_neg (by simp [hrest d rfl])
  rw [List.cons_append, fields_append_cons hs hc, List.dropWhile_append_of_pos hdivider, hdrop]

/-! ## Quantities -/

/-- A quantity as it is written: a number, blanks and a unit. -/
structure WrittenQuantity where
  number : WrittenNumber
  gap : List Char := []
  unit : List Char
  gap_isSpacing : IsSpacing gap := by decide
  unit_trim : trim unit = unit
  unit_isOneField : IsOneField unit
  unit_newline : '\n' ∉ unit
  unit_head : ∀ c ∈ unit.head?, isDigit c = false ∧ c ≠ '.'

/-- Every number is read as a whole. -/
theorem WrittenNumber.read?_text (n : WrittenNumber) :
    Binary64.read? n.text = some n.toBinary64 := by
  rw [n.writes.read?, n.toBinary64_numeral]

theorem WrittenNumber.ne_percent (n : WrittenNumber) : ∀ c ∈ n.text, c ≠ '%' := by
  rintro c hc rfl
  exact absurd (n.isDigit_or_eq_point _ hc) (by decide)

namespace WrittenQuantity

variable (q : WrittenQuantity)

def text : List Char := q.number.text ++ (q.gap ++ q.unit)

theorem isOneField_text : IsOneField q.text :=
  List.forall_mem_append.2 ⟨q.number.isSeparator_text,
    List.forall_mem_append.2 ⟨q.gap_isSpacing.isOneField, q.unit_isOneField⟩⟩

theorem trim_text : trim q.text = q.number.text ++ trimRight (q.gap ++ q.unit) :=
  q.number.trim_append _

theorem trim_text_ne_nil : trim q.text ≠ [] := by
  simp [trim_text, q.number.text_ne_nil]

/-- What follows the number does not go on with it. -/
theorem head_gap_append_unit :
    ∀ c ∈ (q.gap ++ q.unit).head?, isDigit c = false ∧ c ≠ '.' := by
  have hgap := q.gap_isSpacing
  cases h : q.gap with
  | nil => exact q.unit_head
  | cons d gap =>
    rintro _ ⟨⟩
    have hblank : isBlank d := (hgap d (by simp [h])).1
    constructor
    · by_contra hdigit
      rw [Text.isBlank_of_digit (by simpa using hdigit)] at hblank
      cases hblank
    · rintro rfl
      exact absurd hblank (by decide)

/-- The number and the unit are read off a quantity, whatever blanks stand between them. -/
theorem readQuantity_trim :
    readQuantity (trim q.text) = (q.number.toBinary64, String.ofList q.unit) := by
  have hline : '\n' ∉ trimRight (q.gap ++ q.unit) := fun hmem =>
    (List.mem_append.1 ((Text.trimRight_isPrefix _).subset hmem)).elim
      q.gap_isSpacing.newline_not_mem q.unit_newline
  rw [trim_text, q.number.readQuantity_append _
      (fun c hc => q.head_gap_append_unit c (Text.mem_head?_of_trimRight hc)) hline,
    Text.trim_trimRight, Text.trim_append_left q.gap_isSpacing.isBlank, q.unit_trim]

/-- The percentage of a text that is a number, blanks and percent signs. -/
theorem readPercentage_append {s : List Char} (percents : List Char) (hs : ∀ c ∈ s, c ≠ '%')
    (hpercents : ∀ c ∈ percents, c = '%') (htrim : trim s = q.number.text) :
    readPercentage (s ++ percents) = q.number.toBinary64 := by
  have hcut : dropRightWhile (· == '%') (s ++ percents) = s := by
    have hall : ∀ c ∈ percents.reverse, (c == '%') = true := fun c hc => by
      simpa using hpercents c (List.mem_reverse.1 hc)
    rw [dropRightWhile, List.reverse_append, List.dropWhile_append_of_pos hall]
    exact List.rdropWhile_eq_self_iff.2 fun some => by simpa using hs _ (List.getLast_mem some)
  have hnumber := q.number.readQuantity_append [] (by simp) (by simp)
  rw [List.append_nil] at hnumber
  rw [readPercentage, hcut, htrim, hnumber]

/-- A number alone is a percentage, and so is one in front of a percent sign. -/
theorem percentage_trim (h : q.unit = [] ∨ q.unit = ['%']) :
    isPercentage (trim q.text) ∧ readPercentage (trim q.text) = q.number.toBinary64 := by
  have hnumber : trim q.number.text = q.number.text := Text.trim_of_forall q.number.isBlank_text
  obtain hunit | hunit := h
  · have htext : trim q.text = q.number.text := by
      rw [text, hunit, List.append_nil, Text.trim_append_right q.gap_isSpacing.isBlank, hnumber]
    rw [htext]
    refine ⟨by simp [isPercentage, isBareNumber, q.number.writes.leadingNumber?_self], ?_⟩
    have := q.readPercentage_append [] q.number.ne_percent (by simp) hnumber
    rwa [List.append_nil] at this
  · have htext : trim q.text = (q.number.text ++ q.gap) ++ ['%'] := by
      rw [trim_text, hunit, Text.trimRight_append_cons (by decide), List.append_assoc]
      rfl
    have hgap : ∀ c ∈ q.gap, c ≠ '%' := by
      rintro c hc rfl
      exact absurd (q.gap_isSpacing _ hc).1 (by decide)
    rw [htext]
    refine ⟨by simp [isPercentage], q.readPercentage_append _
      (List.forall_mem_append.2 ⟨q.number.ne_percent, hgap⟩) (by simp) ?_⟩
    rw [Text.trim_append_right q.gap_isSpacing.isBlank, hnumber]

end WrittenQuantity

/-! ## Lines -/

/-- A line with a name, a place for a quantity, and a price that something may follow. -/
structure WrittenLine where
  name : List Char
  price : List Char
  /-- What follows the price in its field. -/
  note : List Char := []
  nameMargins : Margins := {}
  firstDivider : List Char
  quantityMargins : Margins := {}
  secondDivider : List Char
  priceMargins : Margins := {}
  name_ne_nil : name ≠ []
  name_trim : trim name = name
  name_isOneField : IsOneField name
  firstDivider_isDivider : IsDivider firstDivider
  secondDivider_isDivider : IsDivider secondDivider
  price_ne_nil : price ≠ []
  price_isDigit : ∀ c ∈ price, c.isDigit
  price_length : price.length ≤ Text.digitLimit
  note_isOneField : IsOneField note
  note_head : ∀ c ∈ note.head?, isDigit c = false

namespace WrittenLine

variable (l : WrittenLine)

/-- The line with a quantity in its place. -/
def text (quantity : List Char) : String :=
  String.ofList (l.nameMargins.around l.name ++ (l.firstDivider ++
    (l.quantityMargins.around quantity ++ (l.secondDivider ++
      l.priceMargins.around (l.price ++ l.note)))))

/-- The price that the line enters. -/
def unitPrice : Nat := Text.digitsValue l.price

theorem readInteger?_price : Number.readInteger? l.price = some (l.unitPrice : Int) := by
  rw [Number.readInteger?_of_forall fun c hc => Text.isDigit_of_isDigit (l.price_isDigit c hc),
    if_pos ⟨l.price_ne_nil, l.price_length⟩, unitPrice]

/-- The price is read whatever follows it. -/
theorem readUnitPrice_trim : readUnitPrice (trim (l.price ++ l.note)) = .ok l.unitPrice := by
  have htrim : trim (l.price ++ l.note) = l.price ++ trimRight l.note :=
    Text.trim_append_of_forall l.price_ne_nil
      (fun c hc => Text.isBlank_of_isDigit (l.price_isDigit c hc)) l.note
  have hdigits : (l.price ++ trimRight l.note).takeWhile isDigit = l.price :=
    (Text.span_isDigit (fun c hc => Text.isDigit_of_isDigit (l.price_isDigit c hc))
      fun c hc => l.note_head c (Text.mem_head?_of_trimRight hc)).1
  rw [readUnitPrice, htrim, hdigits, Number.readDigits, if_pos l.price_length, unitPrice]

theorem fields_text {quantity : List Char} (some : quantity ≠ [])
    (hquantity : IsOneField quantity) :
    fields (l.text quantity).toList = [l.nameMargins.around l.name,
      l.quantityMargins.around quantity, l.priceMargins.around (l.price ++ l.note)] := by
  have hname := l.nameMargins.isOneField_around l.name_isOneField
  have hquantity := l.quantityMargins.isOneField_around hquantity
  have hprice := l.priceMargins.isOneField_around (List.forall_mem_append.2
    ⟨fun c hc => isSeparator_of_isDigit (l.price_isDigit c hc), l.note_isOneField⟩)
  obtain ⟨d, s, hcons⟩ := List.exists_cons_of_ne_nil (l.quantityMargins.around_ne_nil some)
  have hhead : ∀ c ∈ (l.quantityMargins.around quantity ++ (l.secondDivider ++
      l.priceMargins.around (l.price ++ l.note))).head?, isSeparator c = false := by
    rw [hcons]
    rintro _ ⟨⟩
    exact hquantity d (by simp [hcons])
  rw [text, String.toList_ofList, fields_append_divider hname l.firstDivider_isDivider hhead,
    fields_append_divider hquantity l.secondDivider_isDivider
      (fun c hc => hprice c (List.mem_of_mem_head? hc)), fields_of_forall hprice]

/-- The item of the line has its name, its price, and what is read off its quantity. -/
theorem ofLine?_text (quantity : List Char) (some : trim quantity ≠ [])
    (hquantity : IsOneField quantity) :
    Item.ofLine? (l.text quantity) =
      .ok (.some (Item.ofFields l.name (trim quantity) l.unitPrice)) := by
  have hne : quantity ≠ [] := by
    rintro rfl
    exact some rfl
  obtain ⟨c, name, hname⟩ := List.exists_cons_of_ne_nil l.name_ne_nil
  obtain ⟨d, s, hs⟩ := List.exists_cons_of_ne_nil some
  have hfields : (fields (l.text quantity).toList).map trim =
      [c :: name, d :: s, trim (l.price ++ l.note)] := by
    simp only [l.fields_text hne hquantity, List.map_cons, List.map_nil, Margins.trim_around,
      l.name_trim]
    rw [hname, hs]
  simp only [Item.ofLine?, hfields, l.readUnitPrice_trim, hname, hs]
  rfl

end WrittenLine

/-! ## Items -/

/-- What is written in a line is what is read off it. A name that speaks of neither the levy nor of
overheads is that of a standard item, of so many units or of a lump sum; overheads with a percentage
are a surcharge, and a name that speaks of the levy is the levy whatever its quantity is. -/
theorem item_of_written (l : WrittenLine) (q : WrittenQuantity) :
    ∃ quantity unitPrice, Binary64.read? q.number.text = some quantity ∧
      Number.readInteger? l.price = some unitPrice ∧
      (¬ levyName.toList <:+: l.name → ¬ surchargeName.toList <:+: l.name →
        Item.ofLine? (l.text q.text) = .ok (some
          { name := String.ofList l.name, quantityText := String.ofList (trim q.text), quantity,
            unit := String.ofList q.unit, unitPrice, category := .standard }) ∧
        Item.ofLine? (l.text lumpSum) = .ok (some
          { name := String.ofList l.name, quantityText := String.ofList lumpSum, quantity := 1,
            unit := lumpSumUnit, unitPrice, category := .standard })) ∧
      (¬ levyName.toList <:+: l.name → surchargeName.toList <:+: l.name →
        q.unit = [] ∨ q.unit = ['%'] →
        Item.ofLine? (l.text q.text) = .ok (some
          { name := surchargeName, quantityText := String.ofList (trim q.text), quantity,
            unit := "%", unitPrice, category := .percentageSurcharge })) ∧
      (levyName.toList <:+: l.name →
        Item.ofLine? (l.text q.text) = .ok (some
          { name := levyName, quantityText := String.ofList (trim q.text), quantity := 1,
            unit := lumpSumUnit, unitPrice := 0, category := .welfareLevy })) := by
  have hline := l.ofLine?_text _ q.trim_text_ne_nil q.isOneField_text
  have hlump : trim lumpSum = lumpSum := by decide
  have hlumpLine := l.ofLine?_text lumpSum (by decide) (by decide)
  refine ⟨_, _, q.number.read?_text, l.readInteger?_price, fun hlevy hsurcharge => ⟨?_, ?_⟩,
    fun hlevy hsurcharge hunit => ?_, fun hlevy => ?_⟩
  · rw [hline, Item.ofFields, if_neg (by rwa [Text.contains_iff]),
      if_neg (by simp [Text.contains_iff, hsurcharge]), q.readQuantity_trim]
  · rw [hlumpLine, hlump, Item.ofFields, if_neg (by rwa [Text.contains_iff]),
      if_neg (by simp [Text.contains_iff, hsurcharge]), readQuantity, if_pos rfl]
  · obtain ⟨hpercentage, hrate⟩ := q.percentage_trim hunit
    rw [hline, Item.ofFields, if_neg (by rwa [Text.contains_iff]),
      if_pos (by simp [Text.contains_iff, hsurcharge, hpercentage]), hrate]
  · rw [hline, Item.ofFields, if_pos (by rwa [Text.contains_iff])]

/-- Seven percent. -/
def WrittenQuantity.sevenPercent : WrittenQuantity where
  number :=
    { whole := ['7']
      fraction := none
      allDigits := List.all_eq_true.1 (by decide)
      ne_nil := by decide }
  gap := [' ']
  unit := ['%']
  unit_trim := by decide
  unit_isOneField := by decide
  unit_newline := by decide
  unit_head := by
    rintro _ ⟨⟩
    decide

/-- A line with this name and with blanks, a note and dividers of several kinds. -/
def WrittenLine.noted (name : List Char) (some : name ≠ []) (name_trim : trim name = name)
    (name_isOneField : IsOneField name) : WrittenLine where
  name := name
  price := ['3', '5', '0', '0']
  note := ['円', '、', '税', '別']
  nameMargins := { before := ['　'], after := [' '] }
  firstDivider := [',', '\t', '，']
  quantityMargins := { after := ['　'] }
  secondDivider := ['，']
  priceMargins := { before := [' '] }
  name_ne_nil := some
  name_trim := name_trim
  name_isOneField := name_isOneField
  firstDivider_isDivider := by decide
  secondDivider_isDivider := by decide
  price_ne_nil := by decide
  price_isDigit := List.all_eq_true.1 (by decide)
  price_length := by decide
  note_isOneField := by decide
  note_head := by
    rintro _ ⟨⟩
    decide

theorem item_of_written_noted :
    Item.ofLine? ((WrittenLine.noted ['看', '板'] (by decide) (by decide) (by decide)).text
        WrittenQuantity.sevenPercent.text) = .ok (some
      { name := "看板", quantityText := "7 %", quantity := 7, unit := "%", unitPrice := 3500 }) ∧
    Item.ofLine? ((WrittenLine.noted ['諸', '経', '費', ' ', 'A'] (by decide) (by decide)
        (by decide)).text WrittenQuantity.sevenPercent.text) = .ok (some
      { name := "諸経費", quantityText := "7 %", quantity := 7, unit := "%", unitPrice := 3500,
        category := .percentageSurcharge }) ∧
    Item.ofLine? ((WrittenLine.noted ['法', '定', '福', '利', '費'] (by decide) (by decide)
        (by decide)).text WrittenQuantity.sevenPercent.text) = .ok (some
      { name := "法定福利費", quantityText := "7 %", quantity := 1, unit := "式", unitPrice := 0,
        category := .welfareLevy }) := by
  have htext : String.ofList (trim WrittenQuantity.sevenPercent.text) = "7 %" := by decide
  have hseven : Binary64.read? ['7'] = some 7 := by decide +kernel
  have hprice : Number.readInteger? ['3', '5', '0', '0'] = some 3500 := by decide +kernel
  refine ⟨?_, ?_, ?_⟩
  · obtain ⟨quantity, unitPrice, hquantity, hunitPrice, hstandard, -⟩ :=
      item_of_written (.noted ['看', '板'] (by decide) (by decide) (by decide)) .sevenPercent
    obtain rfl := Option.some.inj (hquantity.symm.trans hseven)
    obtain rfl := Option.some.inj (hunitPrice.symm.trans hprice)
    rw [htext] at hstandard
    exact (hstandard (by decide) (by decide)).1
  · obtain ⟨quantity, unitPrice, hquantity, hunitPrice, -, hsurcharge, -⟩ :=
      item_of_written (.noted ['諸', '経', '費', ' ', 'A'] (by decide) (by decide) (by decide))
        .sevenPercent
    obtain rfl := Option.some.inj (hquantity.symm.trans hseven)
    obtain rfl := Option.some.inj (hunitPrice.symm.trans hprice)
    rw [htext] at hsurcharge
    exact hsurcharge (by decide) (by decide) (.inr rfl)
  · obtain ⟨-, -, -, -, -, -, hlevy⟩ :=
      item_of_written (.noted ['法', '定', '福', '利', '費'] (by decide) (by decide) (by decide))
        .sevenPercent
    rw [htext] at hlevy
    exact hlevy (by decide)

end Billing

import Billing.Proofs.Drawing.Document

/-!
# Forms

The form of a block is what is left of its marks without the figures (`Block.form`): marks that are
the same for all figures, places where a text is written, columns that may stay empty, and the place
of a seal (`Slot`). Marks fill a form if they have something for each of its slots (`Fills`).

* `DocumentRun.fills`: the marks of a document fill the forms of its blocks.
* `Fills.filter_isFrame`: new pages, rectangles and lines are those of the form.
-/

namespace Billing

namespace Mark

variable {α : Type}

def isSeal : Mark α → Bool
  | .seal .. => true
  | _ => false

/-- Whether the mark is a new page, a rectangle or a line. -/
def isFrame : Mark α → Bool
  | newPage | rect .. | line .. => true
  | _ => false

end Mark

namespace Layout

open Coordinate

/-- A place of a form. -/
inductive Slot (α : Type) where
  /-- The place of a mark that is the same for all figures. -/
  | printed (m : Mark α)
  /-- The place of a text. -/
  | blank (x y : α) (style : TextStyle α)
  /-- The place of a text that may be missing. -/
  | optional (x y : α) (style : TextStyle α)
  /-- The place of a seal that may be missing. -/
  | stamp

section

variable {α β : Type}

/-- The marks for a slot. -/
inductive Slot.Holds : Slot α → List (Mark α) → Prop
  | printed {m} (h : m.isSeal = false) : Holds (.printed m) [m]
  | blank (s x y style) : Holds (.blank x y style) [.text s x y style]
  | shown (s x y style) : Holds (.optional x y style) [.text s x y style]
  | hidden (x y style) : Holds (.optional x y style) []
  | stamped (x y columns size) : Holds .stamp [.seal x y columns size]
  | unstamped : Holds .stamp []

/-- Whether a list is made of a part for each slot of a form, one after the other. -/
def Consists (holds : Slot α → List β → Prop) (form : List (Slot α)) (l : List β) : Prop :=
  ∃ parts, List.Forall₂ holds form parts ∧ l = parts.flatten

/-- Whether marks are made of those for the slots of a form. -/
def Fills (form : List (Slot α)) (ms : List (Mark α)) : Prop := Consists Slot.Holds form ms

namespace Consists

variable {holds : Slot α → List β → Prop}

theorem nil : Consists holds [] [] := ⟨[], .nil, rfl⟩

theorem cons {slot : Slot α} {form : List (Slot α)} {part l : List β} (hslot : holds slot part)
    (h : Consists holds form l) : Consists holds (slot :: form) (part ++ l) := by
  obtain ⟨parts, hparts, rfl⟩ := h
  exact ⟨part :: parts, .cons hslot hparts, rfl⟩

/-- A slot that has one thing. -/
theorem cons_one {slot : Slot α} {form : List (Slot α)} {b : β} {l : List β}
    (hslot : holds slot [b]) (h : Consists holds form l) :
    Consists holds (slot :: form) (b :: l) := cons hslot h

theorem append {form form' : List (Slot α)} {l l' : List β} (h : Consists holds form l)
    (h' : Consists holds form' l') : Consists holds (form ++ form') (l ++ l') := by
  obtain ⟨parts, hparts, rfl⟩ := h
  obtain ⟨parts', hparts', rfl⟩ := h'
  exact ⟨parts ++ parts', List.rel_append hparts hparts', by simp⟩

end Consists

/-- The place of a mark that changes: the text of it is left open. -/
def blanked : Mark α → Slot α
  | .text _ x y style => .blank x y style
  | m => .printed m

theorem holds_blanked {m : Mark α} (h : m.isSeal = false) : (blanked m).Holds [m] := by
  cases m with
  | text s x y style => exact .blank s x y style
  | _ => exact .printed h

/-- The places of marks of which some change. -/
def slots (changes : List Bool) (ms : List (Mark α)) : List (Slot α) :=
  List.zipWith (fun changing m => if changing then blanked m else .printed m) changes ms

theorem fills_slots {changes : List Bool} {ms : List (Mark α)}
    (hlength : changes.length = ms.length) (h : ∀ m ∈ ms, m.isSeal = false) : Fills (slots changes ms) ms := by
  induction changes generalizing ms with
  | nil =>
    obtain rfl : ms = [] := List.length_eq_zero_iff.1 hlength.symm
    exact .nil
  | cons changing changes ih =>
    obtain ⟨m, ms, rfl⟩ := List.exists_cons_of_length_eq_add_one hlength.symm
    obtain ⟨hm, hms⟩ := List.forall_mem_cons.1 h
    refine .cons_one ?_ (ih (by simpa using hlength) hms)
    cases changing with
    | false => exact .printed hm
    | true => exact holds_blanked hm

theorem fills_printed {ms : List (Mark α)} (h : ∀ m ∈ ms, m.isSeal = false) :
    Fills (ms.map .printed) ms := by
  induction ms with
  | nil => exact .nil
  | cons m ms ih =>
    obtain ⟨hm, hms⟩ := List.forall_mem_cons.1 h
    exact .cons_one (.printed hm) (ih hms)

/-- The new page, the rectangle or the line that is printed in a slot. -/
def Slot.frame : Slot α → List (Mark α)
  | printed m => [m].filter (·.isFrame)
  | _ => []

theorem Slot.Holds.filter_isFrame {slot : Slot α} {ms : List (Mark α)} (h : slot.Holds ms) :
    ms.filter (·.isFrame) = slot.frame := by
  cases h <;> rfl

/-- New pages, rectangles and lines are printed on a form. -/
theorem Fills.filter_isFrame {form : List (Slot α)} {ms : List (Mark α)} (h : Fills form ms) :
    ms.filter (·.isFrame) = form.flatMap Slot.frame := by
  obtain ⟨parts, hparts, rfl⟩ := h
  induction hparts with
  | nil => rfl
  | cons hslot _ ih =>
    rw [List.flatten_cons, List.filter_append, hslot.filter_isFrame, ih, List.flatMap_cons]

end

/-! ## The forms of blocks -/

variable {α : Type}

/-- The form of a part of the header: the title, the date, the greeting, the total with its label
and the seal change. -/
def HeaderPart.form (part : HeaderPart) (ms : List (Mark α)) : List (Slot α) :=
  match part with
  | title => slots [true, false, false] ms
  | date => slots [true] ms
  | client => slots [false, false, false, true, true, true, false] ms
  | issuer =>
    (ms.take 1).map .printed ++ .stamp :: ((ms.drop 1).filter (!·.isSeal)).map .printed

variable [Coordinate α]

/-- The columns of figures at a height: quantities and unit prices may be missing. -/
def figureSlots (p : LayoutParams α) (y : α) : List (Slot α) :=
  let style : TextStyle α := { size := p.fontSize, lineGap := pt 0 }
  [.optional p.quantityX y style, .optional p.priceX y style, .blank p.amountX y style]

/-- The form of a row segment: its rule and its part of the name, and the columns of figures if it
is the first of its entry. -/
def Segment.form (p : LayoutParams α) (s : Segment α) : List (Slot α) :=
  ((s.marks p).take 2).map .printed ++
    if s.figures.isSome then figureSlots p (s.y + pt 8) else []

/-- The form of a summary: the figures and the label of the tax change. -/
def Totals.form (p : LayoutParams α) (t : Totals α) : List (Slot α) :=
  slots [false, true, false, true, true, false, false, true, false, false] (t.marks p)

/-- The form of a block. -/
def Block.form (p : LayoutParams α) : Block α → List (Slot α)
  | header part ms => part.form ms
  | segment s => s.form p
  | summary t => t.form p
  | b => (b.marks p).map .printed

/-- The forms of blocks. -/
def forms (p : LayoutParams α) (bs : List (Block α)) : List (List (Slot α)) := bs.map (·.form p)

@[simp] theorem forms_nil (p : LayoutParams α) : forms p [] = [] := rfl

@[simp] theorem forms_cons (p : LayoutParams α) (b : Block α) (bs : List (Block α)) :
    forms p (b :: bs) = b.form p :: forms p bs := rfl

@[simp] theorem forms_append (p : LayoutParams α) (bs bs' : List (Block α)) :
    forms p (bs ++ bs') = forms p bs ++ forms p bs' := List.map_append

theorem fills_figureSlots (p : LayoutParams α) (y : α) (f : Figures) :
    Fills (figureSlots p y) (figuresMarks p y f) := by
  have hoptional (s : Option String) (x : α) : (Slot.optional x y
      { size := p.fontSize, lineGap := pt 0 }).Holds (s.map (tableText p · x y)).toList := by
    cases s with
    | none => exact .hidden ..
    | some s => exact .shown ..
  have hamount : Fills [.blank p.amountX y { size := p.fontSize, lineGap := pt 0 }]
      [tableText p f.amount p.amountX y] := .cons_one (.blank ..) .nil
  rw [figuresMarks, List.append_assoc]
  exact .cons (hoptional ..) (.cons (hoptional ..) hamount)

theorem Segment.fills (p : LayoutParams α) (s : Segment α) : Fills (s.form p) (s.marks p) := by
  have hname : Fills (((s.marks p).take 2).map .printed) ((s.marks p).take 2) :=
    fills_printed (by simp [marks, Mark.isSeal])
  have hfigures : Fills (if s.figures.isSome then figureSlots p (s.y + pt 8) else [])
      ((s.marks p).drop 2) := by
    simp only [marks, List.drop_succ_cons, List.drop_zero]
    cases s.figures with
    | none => exact .nil
    | some f => exact fills_figureSlots p _ f
  have := hname.append hfigures
  rwa [List.take_append_drop] at this

theorem Totals.fills (p : LayoutParams α) (t : Totals α) : Fills (t.form p) (t.marks p) :=
  fills_slots rfl (by simp [marks, summaryRow, totalRow, tableText, rule, Mark.isSeal])

/-- Below the header, marks fill the form of their block. -/
theorem Block.fills {p : LayoutParams α} {b : Block α} (h : b.isHeader = false) :
    Fills (b.form p) (b.marks p) := by
  cases b with
  | header => cases h
  | segment s => exact s.fills p
  | summary t => exact t.fills p
  | newPage => exact fills_printed (by simp [marks, Mark.isSeal])
  | band => exact fills_printed (by simp [marks, headerMarks, headerLabels, tableText, Mark.isSeal])
  | remarks => exact fills_printed (by simp [marks, boxMarks, Mark.isSeal])

/-! ## The form of a document -/

variable {metrics : Metrics α} {p : LayoutParams α} {doc : Document}

theorem fills_forms {bs : List (Block α)} (h : ∀ b ∈ bs, Fills (b.form p) (b.marks p)) :
    Fills (forms p bs).flatten (drawing p bs) := by
  induction bs with
  | nil => exact .nil
  | cons b bs ih =>
    obtain ⟨hb, hbs⟩ := List.forall_mem_cons.1 h
    exact hb.append (ih hbs)

theorem isSeal_of_drawIssuerLines {x width y bottom : α} {lines : List String}
    {ms : List (Mark α)} (h : drawIssuerLines metrics x width lines y = .ok (ms, bottom)) :
    ∀ m ∈ ms, m.isSeal = false := by
  intro m hm
  obtain ⟨_, _, rfl⟩ := exists_text_of_drawIssuerLines h m hm
  rfl

theorem holds_sealMarks (issuer : Issuer) (c : Cursor α) :
    Slot.stamp.Holds (sealMarks issuer c) := by
  unfold sealMarks
  split
  · exact .unstamped
  · exact .stamped ..

/-- The form of an issuer's block does not tell what its seal is. -/
theorem HeaderPart.form_issuer (m : Mark α) (issuer : Issuer) (c : Cursor α) {rest : List (Mark α)}
    (h : ∀ m ∈ rest, m.isSeal = false) :
    HeaderPart.issuer.form (m :: sealMarks issuer c ++ rest) =
      .printed m :: .stamp :: rest.map .printed := by
  have hseal : (sealMarks issuer c).filter (!·.isSeal) = [] := by
    unfold sealMarks
    split <;> simp [Mark.isSeal]
  have hrest : rest.filter (!·.isSeal) = rest := List.filter_eq_self.2 (by simpa using h)
  simp [form, hseal, hrest]

theorem HeaderRun.fills {bs : List (Block α)} {start : Cursor α} {bottom : α}
    (run : HeaderRun metrics p doc bs start bottom) : ∀ b ∈ bs, Fills (b.form p) (b.marks p) := by
  obtain ⟨htitle, hdate, hclient, hissuer⟩ := run
  simp only [List.forall_mem_cons, List.not_mem_nil, false_imp_iff, implies_true, and_true,
    Block.form, Block.marks]
  refine ⟨?title, ?date, ?client, ?issuer⟩
  case title =>
    simp only [drawTitle, bind_eq_ok, pure_eq_ok, Prod.mk.injEq] at htitle
    obtain ⟨_, -, rfl, -⟩ := htitle
    exact fills_slots rfl (by simp [rule, Mark.isSeal])
  case date =>
    simp only [drawDate, bind_eq_ok, pure_eq_ok, Prod.mk.injEq] at hdate
    obtain ⟨_, -, rfl, -⟩ := hdate
    exact fills_slots rfl (by simp [Mark.isSeal])
  case client =>
    simp only [drawClient, bind_eq_ok, pure_eq_ok, Prod.mk.injEq] at hclient
    obtain ⟨_, -, _, -, rfl, -⟩ := hclient
    exact fills_slots rfl (by simp [rule, Mark.isSeal])
  case issuer =>
    obtain ⟨_, _, rest, -, -, hrest, rfl⟩ := exists_of_drawIssuer hissuer
    have hlines := isSeal_of_drawIssuerLines hrest
    rw [HeaderPart.form_issuer _ _ _ hlines, List.cons_append]
    exact .cons_one (.printed rfl) (.cons (holds_sealMarks ..) (fills_printed hlines))

/-- The marks of a document fill the forms of its blocks. -/
theorem DocumentRun.fills {bs : List (Block α)} {c : Cursor α}
    (run : DocumentRun metrics p doc bs c) : Fills (forms p bs).flatten (drawing p bs) := by
  refine fills_forms ?_
  obtain ⟨headers, table, entries, ending⟩ := run
  simp only [List.forall_mem_append]
  refine ⟨⟨⟨headers.fills, fun b hb => ?_⟩, fun b hb => ?_⟩, fun b hb => ?_⟩
  · exact Block.fills (Block.isHeader_of_isTable (table.isTable.1 b hb))
  · exact Block.fills (Block.isHeader_of_isTable (entries.isTable b hb))
  · exact Block.fills (Block.of_isClosing (ending.isClosing b hb)).1

end Layout

end Billing

import Billing.Proofs.Drawing.Forms
import Billing.Proofs.Pagination
import Billing.Proofs.Printing

/-!
# Printing on a form

The calls that print marks are those for the slots of the form that the marks fill (`Slot.Prints`).
Of the canvas, only the height of its sheet and its colours matter for them, but for the calls of a
seal, which depend on random numbers too.

* `Canvas.calls_draw_eq`: two canvases with sheets of one height and the same colours print a mark
  alike.
* `Fills.printedOn`: marks that fill a form are printed on it, whatever random numbers are drawn.
-/

namespace Billing

namespace Layout

variable {α : Type} [Coordinate α]

/-- The calls for a slot, on the sheet of a canvas. -/
inductive Slot.Prints (k : Canvas α) : Slot α → List (Call α) → Prop
  | printed {m} (h : m.isSeal = false) : Prints k (.printed m) (k.draw m).1.calls
  | blank (s x y style) : Prints k (.blank x y style) (k.textCalls s x y style).calls
  | shown (s x y style) : Prints k (.optional x y style) (k.textCalls s x y style).calls
  | hidden (x y style) : Prints k (.optional x y style) []
  | stamped {k' : Canvas α} (hsheet : k'.pageHeight = k.pageHeight) (x y columns size) :
    Prints k .stamp (k'.sealCalls x y columns size)
  | unstamped : Prints k .stamp []

/-- What comes of marks that are printed from a canvas on: they are printed to their end, and their
calls are made of those for the slots of a form. -/
structure PrintedOn (k : Canvas α) (form : List (Slot α)) (r : Calls α × Canvas α) : Prop where
  fault : r.1.fault = none
  calls : Consists (Slot.Prints k) form r.1.calls
  pages : r.2.pages = k.pages + (form.flatMap Slot.frame).countP (·.isNewPage)

end Layout

namespace Canvas

variable {α : Type} [Coordinate α] {k k' : Canvas α}

theorem calls_drawAll_singleton (k : Canvas α) (m : Mark α) :
    (k.drawAll [m]).1.calls = (k.draw m).1.calls := by
  simp only [drawAll]
  split
  · rfl
  · exact List.append_nil _

theorem calls_drawAll_append (k : Canvas α) {ms : List (Mark α)}
    (h : ∀ m ∈ ms, m.IsColoured k.palette) (ms' : List (Mark α)) :
    (k.drawAll (ms ++ ms')).1.calls =
      (k.drawAll ms).1.calls ++ ((k.drawAll ms).2.drawAll ms').1.calls := by
  induction ms generalizing k with
  | nil => rfl
  | cons m ms ih =>
    obtain ⟨hm, hms⟩ := List.forall_mem_cons.1 h
    rw [← k.palette_draw m] at hms
    simp only [List.cons_append, drawAll, k.fault_draw hm, ih _ hms, List.append_assoc]

/-- Of a canvas, only its height and its colours tell how a mark is printed that is no seal. -/
theorem calls_draw_eq (hsheet : k'.pageHeight = k.pageHeight) (hpalette : k'.palette = k.palette)
    {m : Mark α} (h : m.isSeal = false) : (k'.draw m).1 = (k.draw m).1 := by
  cases m with
  | newPage => rfl
  | text => simp only [draw, textCalls, textCallsBy, flip, hsheet, hpalette]
  | rect => simp only [draw, rectCalls, flip, hsheet, hpalette]
  | line => simp only [draw, lineMarkCalls, flip, hsheet, hpalette]
  | _ => cases h

end Canvas

namespace Layout

variable {α : Type} [Coordinate α] {k k' : Canvas α}

theorem Slot.Holds.prints {slot : Slot α} {ms : List (Mark α)} (h : slot.Holds ms)
    (hsheet : k'.pageHeight = k.pageHeight) (hpalette : k'.palette = k.palette) :
    slot.Prints k (k'.drawAll ms).1.calls := by
  have htext (s : String) (x y : α) (style : TextStyle α) :
      (k'.drawAll [.text s x y style]).1.calls = (k.textCalls s x y style).calls := by
    rw [k'.calls_drawAll_singleton, Canvas.calls_draw_eq hsheet hpalette rfl]
    rfl
  cases h with
  | printed h =>
    rw [k'.calls_drawAll_singleton, Canvas.calls_draw_eq hsheet hpalette h]
    exact .printed h
  | blank s x y style => exact htext s x y style ▸ .blank s x y style
  | shown s x y style => exact htext s x y style ▸ .shown s x y style
  | hidden x y style => exact .hidden x y style
  | stamped x y columns size =>
    rw [k'.calls_drawAll_singleton]
    exact .stamped hsheet x y columns size
  | unstamped => exact .unstamped

theorem Fills.prints {form : List (Slot α)} {ms : List (Mark α)} (h : Fills form ms)
    (hcoloured : ∀ m ∈ ms, m.IsColoured k.palette) (hsheet : k'.pageHeight = k.pageHeight)
    (hpalette : k'.palette = k.palette) :
    Consists (Slot.Prints k) form (k'.drawAll ms).1.calls := by
  obtain ⟨parts, hparts, rfl⟩ := h
  -- pages and seals change the canvas, but not the height of its sheet nor its colours
  induction hparts generalizing k' with
  | nil => exact .nil
  | cons hslot _ ih =>
    simp only [List.flatten_cons, List.forall_mem_append] at hcoloured
    rw [List.flatten_cons, k'.calls_drawAll_append (hpalette ▸ hcoloured.1)]
    exact .cons (hslot.prints hsheet hpalette) (ih ((k'.pageHeight_drawAll _).trans hsheet)
      ((k'.palette_drawAll _).trans hpalette) hcoloured.2)

/-- What is printed for marks fills their form, whatever random numbers the canvas draws. -/
theorem Fills.printedOn {form : List (Slot α)} {ms : List (Mark α)} (h : Fills form ms)
    (hcoloured : ∀ m ∈ ms, m.IsColoured k.palette) (hsheet : k'.pageHeight = k.pageHeight)
    (hpalette : k'.palette = k.palette) (hpages : k'.pages = k.pages) :
    PrintedOn k form (k'.drawAll ms) where
  fault := k'.fault_drawAll (hpalette ▸ hcoloured)
  calls := h.prints hcoloured hsheet hpalette
  pages := by
    have hnew : ms.countP (·.isNewPage) = (ms.filter (·.isFrame)).countP (·.isNewPage) := by
      rw [List.countP_filter]
      refine List.countP_congr fun m _ => ?_
      cases m <;> simp [Mark.isNewPage, Mark.isFrame]
    rw [k'.pages_drawAll (k'.fault_drawAll (hpalette ▸ hcoloured)), hpages, hnew,
      h.filter_isFrame]

end Layout

end Billing

import Billing.Proofs.PageBounds
import Billing.Proofs.Remarks

/-!
# Remarks that go on

In any arithmetic, whichever length it takes for the smaller, and on either canvas, the boxes of
remarks hold all lines of the remarks, in order and none of them empty, whatever room the places
have for them (`Carries`): the first box and no other one has the title of the remarks, and a single
box shows the remarks themselves. Each further box stands on a page of its own (`OwnPages`).

* `BoxRun.exists_carries`: what the loop over the lines of the remarks lays down.
* `remarks_carried`: the remarks of a document, drawn alone or with the document.
-/

namespace Billing.Layout

open Coordinate

variable {α : Type} [Coordinate α] {p : LayoutParams α}

/-! ## Boxes -/

/-- The boxes carry lines of remarks that are set in a style and `lineHeight` high each. `whole` is
the text of a single box, and `isFirst` tells whether the first of them starts the remarks. -/
structure Carries (p : LayoutParams α) (style : TextStyle α) (whole : String) (lineHeight : α)
    (lines : List String) (isFirst : Bool) (first : RemarksBox α) (further : List (RemarksBox α)) :
    Prop where
  lines_eq : (first :: further).flatMap (·.lines) = lines
  lines_ne_nil : ∀ b ∈ first :: further, b.lines ≠ []
  first_title : first.title = if isFirst then remarksTitle else continuedTitle
  further_title : ∀ b ∈ further, b.title = continuedTitle
  first_text : first.text =
    if isFirst ∧ further = [] then whole else Text.unlines first.lines
  further_text : ∀ b ∈ further, b.text = Text.unlines b.lines
  style_eq : ∀ b ∈ first :: further, b.style = style
  height_eq : ∀ b ∈ first :: further, b.height =
    greater (ofCount b.lines.length * lineHeight + pt 25)
      (smaller p.remarksBoxHeight (p.blockBottom - b.y))

/-! ## Pages -/

/-- The blocks of pages that are started one after the other. -/
def onPages (after : List (List (Block α))) : List (Block α) := after.flatMap (.newPage :: ·)

/-- Pages of further boxes, one for each. The page before a box could stay blank only in an
arithmetic with a length that is below itself. -/
inductive OwnPages : List (RemarksBox α) → List (List (Block α)) → Prop
  | nil : OwnPages [] []
  | page {b further after} (rest : OwnPages further after) :
      OwnPages (b :: further) ([.remarks b] :: after)
  | blank {b further after} {y : α} (self : lt y y) (rest : OwnPages further after) :
      OwnPages (b :: further) ([] :: [.remarks b] :: after)

namespace OwnPages

variable {further : List (RemarksBox α)} {after : List (List (Block α))}

/-- Where no length is below itself, no page is blank. -/
theorem eq_map [StrictCoordinate α] (own : OwnPages further after) :
    after = further.map ([.remarks ·]) := by
  induction own with
  | nil => rfl
  | page _ ih => rw [ih, List.map_cons]
  | blank self =>
    rw [StrictCoordinate.lt_self] at self
    cases self

theorem boxes_onPages (own : OwnPages further after) : boxes (onPages after) = further := by
  induction own with
  | nil => rfl
  | page _ ih => exact congrArg (_ :: ·) ih
  | blank _ _ ih => exact congrArg (_ :: ·) ih

theorem pages_onPages (own : OwnPages further after) : pages (onPages after) = [] :: after := by
  have pages_remarks (b : RemarksBox α) {after : List (List (Block α))}
      (rest : pages (onPages after) = [] :: after) :
      pages (.remarks b :: onPages after) = [.remarks b] :: after := by
    rw [← List.singleton_append, pages_append (List.forall_mem_singleton.2 rfl), rest]
    rfl
  induction own with
  | nil => rfl
  | @page b _ after _ ih =>
    change pages (.newPage :: .remarks b :: onPages after) = _
    rw [pages_newPage, pages_remarks b ih]
  | @blank b _ after _ _ _ ih =>
    change pages (.newPage :: .newPage :: .remarks b :: onPages after) = _
    rw [pages_newPage, pages_newPage, pages_remarks b ih]

end OwnPages

/-! ## The loop over the lines -/

section Run

variable {style : TextStyle α} {whole : String} {lineHeight : α} {lines : List String}
  {c c' : Cursor α} {isFirst : Bool} {bs : List (Block α)}

/-- All lines in one box. -/
theorem carries_last (left : lines ≠ []) {count : Int} (all : lines.drop (capacity count) = [])
    (y : α) :
    Carries p style whole lineHeight lines isFirst
      (nextBox p style whole lineHeight lines y isFirst count) [] where
  lines_eq := by
    rw [List.flatMap_singleton]
    exact List.take_of_length_le (List.drop_eq_nil_iff.1 all)
  lines_ne_nil := List.forall_mem_singleton.2 (take_capacity_ne_nil left count)
  first_title := rfl
  further_title := List.forall_mem_nil _
  first_text := by simp [nextBox, all]
  further_text := List.forall_mem_nil _
  style_eq := List.forall_mem_singleton.2 rfl
  height_eq := List.forall_mem_singleton.2 rfl

/-- A box in front of those that carry the lines that are left after it. -/
theorem Carries.cons {first : RemarksBox α} {further : List (RemarksBox α)} {count : Int}
    (left : lines ≠ []) (nonempty : lines.drop (capacity count) ≠ [])
    (rest : Carries p style whole lineHeight (lines.drop (capacity count)) false first further)
    (y : α) :
    Carries p style whole lineHeight lines isFirst
      (nextBox p style whole lineHeight lines y isFirst count) (first :: further) where
  lines_eq := by
    rw [List.flatMap_cons, rest.lines_eq]
    exact List.take_append_drop ..
  lines_ne_nil := List.forall_mem_cons.2 ⟨take_capacity_ne_nil left count, rest.lines_ne_nil⟩
  first_title := rfl
  further_title := List.forall_mem_cons.2 ⟨rest.first_title, rest.further_title⟩
  first_text := by simp [nextBox, nonempty]
  further_text := List.forall_mem_cons.2 ⟨by simpa using rest.first_text, rest.further_text⟩
  style_eq := List.forall_mem_cons.2 ⟨rfl, rest.style_eq⟩
  height_eq := List.forall_mem_cons.2 ⟨rfl, rest.height_eq⟩

/-- A page is started in front of a box only below the top of a page. -/
theorem BoxStart.eq_nil_or {c₁ : Cursor α} (start : BoxStart p lineHeight c bs c₁) :
    bs = [] ∨ bs = [.newPage] ∧ lt p.pageTop c.y := by
  cases start with
  | here => exact .inl rfl
  | newPage _ _ lower => exact .inr ⟨rfl, lower⟩

/-- The loop over the lines of the remarks draws a box, here or at the top of a new page, and a box
on a page of its own as long as lines are left. -/
theorem BoxRun.exists_carries
    (run : BoxRun p style whole lineHeight lines c isFirst bs c') (left : lines ≠ []) :
    ∃ start first further after, bs = start ++ .remarks first :: onPages after ∧
      (start = [] ∨ start = [.newPage] ∧ lt p.pageTop c.y) ∧ OwnPages further after ∧
      Carries p style whole lineHeight lines isFirst first further := by
  induction run with
  | done => exact absurd rfl left
  | last _ start _ all =>
    exact ⟨_, _, [], [], rfl, start.eq_nil_or, .nil, carries_last left all _⟩
  | more _ start _ nonempty _ ih =>
    obtain ⟨start', first, further, after, rfl, hstart, own, rest⟩ := ih nonempty
    -- the rest starts at the top of the page that was started for it
    obtain rfl | ⟨rfl, self⟩ := hstart
    · exact ⟨_, _, first :: further, [.remarks first] :: after, rfl, start.eq_nil_or, own.page,
        rest.cons left nonempty _⟩
    · exact ⟨_, _, first :: further, [] :: [.remarks first] :: after, rfl, start.eq_nil_or,
        own.blank self, rest.cons left nonempty _⟩

end Run

/-! ## The remarks of a document -/

/-- The boxes carry the remarks of a document, wrapped to the width of a box and measured in the
style that they are set in. -/
def CarriesRemarks (metrics : Metrics α) (p : LayoutParams α) (doc : Document)
    (first : RemarksBox α) (further : List (RemarksBox α)) : Prop :=
  let style : TextStyle α := remarksStyle doc
  ∃ lines lineHeight,
    metrics.wrap doc.remarks (some (p.contentWidth - pt 20)) .gothic style.size = .ok lines ∧
    metrics.textHeight (lines.headD "") none .gothic style.size style.lineGap = .ok lineHeight ∧
    Carries p style doc.remarks lineHeight lines true first further

variable {metrics : Metrics α} {doc : Document}

theorem exists_carriesRemarks (canvas : metrics.IsCanvas) {c c' : Cursor α}
    {ms : List (Mark α)} (h : drawRemarks metrics p doc c = .ok (ms, c')) :
    ∃ start first further after, ms = drawing p (start ++ .remarks first :: onPages after) ∧
      (start = [] ∨ start = [.newPage]) ∧ OwnPages further after ∧
      CarriesRemarks metrics p doc first further := by
  simp only [drawRemarks, bind_eq_ok] at h
  obtain ⟨lines, wrapped, lineHeight, measured, h⟩ := h
  obtain ⟨bs, rfl, run⟩ := exists_boxRun h
  obtain ⟨start, first, further, after, rfl, hstart, own, carries⟩ :=
    run.exists_carries (canvas.wrap_ne_nil wrapped)
  exact ⟨start, first, further, after, rfl, hstart.imp_right (·.1), own, lines, lineHeight,
    wrapped, measured, carries⟩

theorem ClosingRun.exists_carriesRemarks (canvas : metrics.IsCanvas) {c c' : Cursor α}
    {bs : List (Block α)} (run : ClosingRun metrics p doc c bs c') :
    ∃ start first further after, bs = start ++ .remarks first :: onPages after ∧
      boxes bs = first :: further ∧ OwnPages further after ∧
      CarriesRemarks metrics p doc first further := by
  obtain ⟨start, -, -, wrapped, measured, run⟩ := run
  obtain ⟨start', first, further, after, rfl, hstart, own, carries⟩ :=
    run.exists_carries (canvas.wrap_ne_nil wrapped)
  refine ⟨_, first, further, after, (List.append_assoc _ (.summary _ :: start') _).symm, ?_, own,
    _, _, wrapped, measured, carries⟩
  have hboxes := congrArg (first :: ·) own.boxes_onPages
  cases start <;> obtain rfl | ⟨rfl, -⟩ := hstart <;> exact hboxes

theorem stopsBy_division_of_drawRemarks (canvas : metrics.IsCanvas) (c : Cursor α) :
    StopsBy (IsDivisionFault α) (drawRemarks metrics p doc c) :=
  (canvas.stopsBy_wrap _ _ _ _).bind fun _ _ => (canvas.stopsBy_textHeight _ _ _ _ _).bind
    fun _ _ => stopsBy_division_of_drawBoxes _ _ _ _ _ _

/-- Unless a division of lengths fails, the remarks are drawn from every place. The boxes carry all
of their lines in order; the first one stands at the place or on a new page, and each further one is
alone on a page, also among the pages of the whole document. -/
theorem remarks_carried (canvas : metrics.IsCanvas) (p : LayoutParams α) (doc : Document) :
    (∀ c, StopsBy (IsDivisionFault α) (drawRemarks metrics p doc c)) ∧
    (∀ c ms c', drawRemarks metrics p doc c = .ok (ms, c') →
      ∃ start first further after, ms = drawing p (start ++ .remarks first :: onPages after) ∧
        (start = [] ∨ start = [.newPage]) ∧ OwnPages further after ∧
        CarriesRemarks metrics p doc first further) ∧
    ∀ ms c, doc.render metrics p = .ok (ms, c) →
      ∃ bs before above first further after, DrawnAs metrics p doc ms c bs ∧
        boxes bs = first :: further ∧
        pages bs = before ++ (above ++ [.remarks first]) :: after ∧ OwnPages further after ∧
        CarriesRemarks metrics p doc first further := by
  refine ⟨stopsBy_division_of_drawRemarks canvas, fun c ms c' => exists_carriesRemarks canvas,
    fun ms c h => ?_⟩
  obtain ⟨bs, rfl, run⟩ := exists_drawnAs h
  have hrun := run
  obtain ⟨headers, table, entries, ending⟩ := run
  rename_i header place bottom band top rows below closing
  obtain ⟨start, first, further, after, rfl, hboxes, own, carries⟩ :=
    ending.exists_carriesRemarks canvas
  obtain ⟨before, above, habove, hpages⟩ := exists_pages_append (header ++ band ++ rows ++ start)
  refine ⟨_, before, above, first, further, after, ⟨rfl, hrun⟩, ?_, ?_, own, carries⟩
  · exact (boxes_document headers table entries _).trans hboxes
  · have hlast : ∀ b ∈ above ++ [.remarks first], b.isNewPage = false :=
      List.forall_mem_append.2 ⟨habove, by simp [Block.isNewPage]⟩
    rw [← List.append_assoc, hpages, List.append_cons above, pages_append hlast,
      own.pages_onPages, List.modifyHead_cons, List.append_nil]

theorem remarks_carried_longSpecimen :
    ∃ ms c, longSpecimen.render (.grid 595) .standard = .ok (ms, c) ∧
      ∃ bs before above first further, DrawnAs (.grid (595 : Rat)) .standard longSpecimen ms c bs ∧
        boxes bs = first :: further ∧
        pages bs = before ++ (above ++ [.remarks first]) :: further.map ([.remarks ·]) ∧
        CarriesRemarks (.grid 595) .standard longSpecimen first further := by
  have printable : longSpecimen.IsPrintable := isPrintable_withRemarks specimen_isPrintable _ _
  obtain ⟨ms, c, h⟩ := exists_render (.grid 595) printable
    LayoutParams.standard_isRoomy.fontSize_pos.ne' LayoutParams.standard_isRoomy.lineHeight_pos.ne'
  obtain ⟨bs, before, above, first, further, after, drawn, hboxes, hpages, own, carries⟩ :=
    (remarks_carried (.grid 595) .standard longSpecimen).2.2 ms c h
  obtain rfl := own.eq_map
  exact ⟨ms, c, h, bs, before, above, first, further, drawn, hboxes, hpages, carries⟩

end Billing.Layout

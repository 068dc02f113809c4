import Billing.Proofs.Printing
import Billing.Proofs.Remarks

/-!
# What is painted of a document's texts

Wrapping leaves out nothing but line breaks (`exists_mem_wrapText`), so that a text that is drawn to
its end is painted to its last character (`Canvas.exists_paints_of_drawAll`). A document draws the
names of its entries, the quantities of the standard ones, and its remarks, all of them whole,
however they are divided into segments and boxes (`isWrittenOut_of_render`).
-/

namespace Billing

/-! ## Wrapping -/

namespace Text

theorem exists_mem_of_mem_joinWith {sep c : Char} {ps : List (List Char)}
    (h : c ∈ joinWith sep ps) (hc : c ≠ sep) : ∃ p ∈ ps, c ∈ p := by
  induction ps with
  | nil => simp [joinWith, List.intercalate] at h
  | cons p ps ih =>
    by_cases hnil : ps = []
    · subst hnil
      exact ⟨p, List.mem_cons_self, by simpa [joinWith, List.intercalate] using h⟩
    · rw [joinWith_cons hnil, List.mem_append, List.mem_cons] at h
      obtain h | rfl | h := h
      · exact ⟨p, List.mem_cons_self, h⟩
      · exact absurd rfl hc
      · obtain ⟨q, hq, hmem⟩ := ih h
        exact ⟨q, List.mem_cons_of_mem _ hq, hmem⟩

theorem mem_joinWith_of_mem {sep c : Char} {p : List Char} {ps : List (List Char)} (hp : p ∈ ps)
    (hc : c ∈ p) : c ∈ joinWith sep ps := by
  induction ps with
  | nil => cases hp
  | cons q ps ih =>
    by_cases hnil : ps = []
    · subst hnil
      obtain rfl := List.mem_singleton.1 hp
      simpa [joinWith, List.intercalate] using hc
    · rw [joinWith_cons hnil, List.mem_append, List.mem_cons]
      obtain rfl | hp := List.mem_cons.1 hp
      · exact .inl hc
      · exact .inr (.inr (ih hp))

theorem mem_unlines_of_mem {c : Char} {l : String} {ls : List String} (hl : l ∈ ls)
    (hc : c ∈ l.toList) : c ∈ (unlines ls).toList := by
  rw [toList_unlines]
  exact mem_joinWith_of_mem (List.mem_map_of_mem hl) hc

end Text

/-- The lines of a paragraph are the paragraph. -/
theorem flatten_wrapParagraph (tooWide : List Char → Bool) (line s : List Char) :
    (wrapParagraph tooWide line s).flatten = line ++ s := by
  induction s generalizing line with
  | nil => simp [wrapParagraph]
  | cons c s ih =>
    rw [wrapParagraph]
    split
    · rw [List.flatten_cons, ih, List.singleton_append]
    · rw [ih, List.append_assoc, List.singleton_append]

/-- Every character of a text but its line breaks is on one of its lines. -/
theorem exists_mem_wrapText (tooWide : Option (List Char → Bool)) {s : List Char} {c : Char}
    (hc : c ∈ s) (hline : c ≠ '\n') : ∃ l ∈ wrapText tooWide s, c ∈ l := by
  rw [← Text.joinWith_splitOn '\n' s] at hc
  obtain ⟨paragraph, hparagraph, hc⟩ := Text.exists_mem_of_mem_joinWith hc hline
  cases tooWide with
  | none =>
    exact ⟨paragraph, List.mem_flatMap.2 ⟨paragraph, hparagraph, List.mem_singleton_self _⟩, hc⟩
  | some tooWide =>
    rw [← List.nil_append paragraph, ← flatten_wrapParagraph tooWide] at hc
    obtain ⟨l, hl, hmem⟩ := List.mem_flatten.1 hc
    exact ⟨l, List.mem_flatMap.2 ⟨paragraph, hparagraph, hl⟩, hmem⟩

theorem Metrics.exists_mem_of_wrap {α : Type} [Coordinate α] {pageWidth : α} {s : String}
    {width : Option α} {typeface : Typeface} {size : α} {ls : List String}
    (h : (Metrics.print pageWidth).wrap s width typeface size = .ok ls) {c : Char}
    (hc : c ∈ s.toList) (hline : c ≠ '\n') : ∃ l ∈ ls, c ∈ l.toList := by
  obtain rfl : (typeface.wrap s.toList width size).map String.ofList = ls := Except.ok.inj h
  obtain ⟨l, hl, hmem⟩ := exists_mem_wrapText _ hc hline
  exact ⟨_, List.mem_map_of_mem hl, by simpa using hmem⟩

/-! ## Painting -/

section

variable {α : Type}

/-- Whether a mark writes a character. -/
def Mark.writes (c : Char) : Mark α → Bool
  | .text s _ _ _ => s.toList.contains c
  | _ => false

/-- Whether all of a text but its line breaks is written by marks. -/
def WritesOut (ms : List (Mark α)) (s : String) : Prop :=
  ∀ c ∈ s.toList, c ≠ '\n' → ∃ m ∈ ms, m.writes c

theorem Mark.writes_text {c : Char} {s : String} (hc : c ∈ s.toList) (x y : α)
    (style : TextStyle α) : (Mark.text s x y style).writes c := List.contains_iff_mem.2 hc

theorem Calls.calls_andThen {x y : Calls α} (hx : x.fault = none) :
    (x.andThen y).calls = x.calls ++ y.calls := by
  rw [andThen, hx]

theorem Calls.fault_of_andThen {x y : Calls α} (h : (x.andThen y).fault = none) :
    x.fault = none ∧ y.fault = none := by
  rw [andThen] at h
  cases hx : x.fault with
  | some cause => simp [hx] at h
  | none => exact ⟨rfl, by simpa [hx] using h⟩

variable [Coordinate α]

theorem Canvas.exists_paints_of_mem_lineCalls (alignment : Alignment) (x lineHeight y : α)
    {lines : List (List Char)} {l : List Char} (hl : l ∈ lines) {c : Char} (hc : c ∈ l) :
    ∃ call ∈ lineCalls alignment x lineHeight y lines, call.paints c := by
  induction lines generalizing y with
  | nil => cases hl
  | cons l' lines ih =>
    rw [lineCalls, List.exists_mem_cons_iff]
    obtain rfl | hl := List.mem_cons.1 hl
    · exact .inl (by simpa [Call.paints] using hc)
    · exact .inr (ih _ hl)

/-- A mark that is printed to its end paints what it writes. -/
theorem Canvas.exists_paints_of_draw (canvas : Canvas α) {m : Mark α} {c : Char}
    (hwrites : m.writes c) (hline : c ≠ '\n') (hfault : (canvas.draw m).1.fault = none) :
    ∃ call ∈ (canvas.draw m).1.calls, call.paints c := by
  cases m with
  | text s x y style =>
    obtain ⟨-, hrest⟩ := Calls.fault_of_andThen hfault
    obtain ⟨hcolor, -⟩ := Calls.fault_of_andThen hrest
    obtain ⟨l, hl, hc⟩ := exists_mem_wrapText (style.width.map fun width line =>
      Coordinate.lt width (style.typeface.textWidth style.size line))
        (List.contains_iff_mem.1 hwrites) hline
    obtain ⟨call, hcall, hpaints⟩ := exists_paints_of_mem_lineCalls (anchor style x).1
      (anchor style x).2 (style.size * pt (6 / 5) + style.lineGap)
      (canvas.flip y - style.size * pt (22 / 25)) hl hc
    refine ⟨call, ?_, hpaints⟩
    simp only [draw, textCalls, textCallsBy]
    rw [Calls.calls_andThen rfl, Calls.calls_andThen hcolor]
    exact List.mem_append_right _ (List.mem_append_right _ hcall)
  | _ => cases hwrites

/-- Marks that are printed to their end paint what they write. -/
theorem Canvas.exists_paints_of_drawAll (canvas : Canvas α) {ms : List (Mark α)}
    (hfault : (canvas.drawAll ms).1.fault = none) {m : Mark α} (hm : m ∈ ms) {c : Char}
    (hwrites : m.writes c) (hline : c ≠ '\n') :
    ∃ call ∈ (canvas.drawAll ms).1.calls, call.paints c := by
  induction ms generalizing canvas with
  | nil => cases hm
  | cons m' ms ih =>
    cases hfirst : (canvas.draw m').1.fault with
    | some cause => simp [drawAll, hfirst] at hfault
    | none =>
      simp only [drawAll, hfirst] at hfault ⊢
      obtain rfl | hm := List.mem_cons.1 hm
      · obtain ⟨call, hcall, hpaints⟩ := canvas.exists_paints_of_draw hwrites hline hfirst
        exact ⟨call, List.mem_append_left _ hcall, hpaints⟩
      · obtain ⟨call, hcall, hpaints⟩ := ih _ hfault hm
        exact ⟨call, List.mem_append_right _ hcall, hpaints⟩

/-! ## Texts of a document -/

namespace Layout

variable {p : LayoutParams α} {pageWidth : α} {doc : Document} {bs : List (Block α)}

theorem mem_drawing {b : Block α} (hb : b ∈ bs) {m : Mark α} (hm : m ∈ b.marks p) :
    m ∈ drawing p bs := List.mem_flatMap.2 ⟨b, hb, hm⟩

omit [Coordinate α] in
theorem mem_of_mem_segments {s : Segment α} (h : s ∈ segments bs) : .segment s ∈ bs := by
  obtain ⟨b, hb, hs⟩ := List.mem_filterMap.1 h
  cases b with
  | segment => exact Option.some.inj hs ▸ hb
  | _ => cases hs

omit [Coordinate α] in
theorem mem_of_mem_boxes {box : RemarksBox α} (h : box ∈ boxes bs) : .remarks box ∈ bs := by
  obtain ⟨b, hb, hbox⟩ := List.mem_filterMap.1 h
  cases b with
  | remarks => exact Option.some.inj hbox ▸ hb
  | _ => cases hbox

/-- The segments of an entry hold its name. -/
theorem IsRow.exists_mem_text {x : Entry} {row : List (Segment α)}
    (h : IsRow (.print pageWidth) p x row) {c : Char} (hc : c ∈ x.name.toList)
    (hline : c ≠ '\n') : ∃ s ∈ row, c ∈ s.text.toList := by
  obtain ⟨l, hl, hmem⟩ := Metrics.exists_mem_of_wrap h.lines hc hline
  obtain ⟨s, hs, hl⟩ := List.mem_flatMap.1 hl
  refine ⟨s, hs, ?_⟩
  obtain hmany | hsingle := lt_or_ge 1 row.length
  · rw [h.text_of_many hmany s hs]
    exact Text.mem_unlines_of_mem hl hmem
  · obtain ⟨s', rfl⟩ := List.length_eq_one_iff.1 (hsingle.antisymm (List.length_pos_of_mem hs))
    obtain rfl := List.mem_singleton.1 hs
    rwa [h.text_of_single s rfl]

/-- Every line of remarks is in a box. -/
theorem BoxRun.exists_mem_lines {style : TextStyle α} {whole : String} {lineHeight : α}
    {lines : List String} {c c' : Cursor α} {isFirst : Bool}
    (run : BoxRun p style whole lineHeight lines c isFirst bs c') :
    ∀ l ∈ lines, ∃ b ∈ boxes bs, l ∈ b.lines := by
  induction run with
  | done => simp
  | @last lines c isFirst _ c₁ count _ _ _ all =>
    intro l hl
    rw [← List.take_append_drop (capacity count) lines, all, List.append_nil] at hl
    exact ⟨_, by rw [boxes_append]; exact List.mem_append_right _ List.mem_cons_self, hl⟩
  | @more lines c isFirst _ c₁ count bs' _ _ _ _ _ _ ih =>
    intro l hl
    rw [← List.take_append_drop (capacity count) lines, List.mem_append] at hl
    rw [boxes_append]
    obtain hl | hl := hl
    · exact ⟨_, List.mem_append_right _ List.mem_cons_self, hl⟩
    · obtain ⟨b, hb, hl⟩ := ih l hl
      exact ⟨b, List.mem_append_right _ (List.mem_cons_of_mem _ hb), hl⟩

/-- The boxes hold the remarks. -/
theorem ClosingRun.exists_mem_text {c c' : Cursor α}
    (run : ClosingRun (.print pageWidth) p doc c bs c') {char : Char}
    (hc : char ∈ doc.remarks.toList) (hline : char ≠ '\n') :
    ∃ b ∈ boxes bs, char ∈ b.text.toList := by
  obtain ⟨start, -, -, wrapped, -, run⟩ := run
  obtain ⟨l, hl, hmem⟩ := Metrics.exists_mem_of_wrap wrapped hc hline
  obtain ⟨b, hb, hl⟩ := run.exists_mem_lines l hl
  refine ⟨b, by rw [boxes_append]; exact List.mem_append_right _ hb, ?_⟩
  obtain ⟨-, -, -, htext | ⟨-, htext, -⟩⟩ := run.text_eq b hb
  · rw [htext]
    exact Text.mem_unlines_of_mem hl hmem
  · rwa [htext]

/-- The texts of a document that are written out when it is drawn. -/
structure IsWrittenOut (doc : Document) (ms : List (Mark α)) : Prop where
  name : ∀ x ∈ doc.entries, WritesOut ms x.name
  quantity : ∀ x ∈ doc.entries, x.category = .standard → WritesOut ms (quantityText x)
  remarks : WritesOut ms doc.remarks

theorem isWrittenOut_of_render {ms : List (Mark α)} {c : Cursor α}
    (h : doc.render (.print pageWidth) p = .ok (ms, c)) : IsWrittenOut doc ms := by
  obtain ⟨bs, rfl, run⟩ := exists_drawnAs h
  obtain ⟨rows, hrows, hall⟩ := run.exists_rows (.print pageWidth)
  have hrow : ∀ x ∈ doc.entries, ∃ row, IsRow (.print pageWidth) p x row ∧
      ∀ s ∈ row, .segment s ∈ bs := fun x hx => by
    obtain ⟨row, hmem, hrow⟩ := exists_of_mem_right (r := flip _) hall.flip hx
    refine ⟨row, hrow, fun s hs => mem_of_mem_segments ?_⟩
    rw [hrows]
    exact List.mem_flatten.2 ⟨row, hmem, hs⟩
  constructor
  case name =>
    intro x hx char hc hline
    obtain ⟨row, hrow, hmem⟩ := hrow x hx
    obtain ⟨s, hs, hc⟩ := hrow.exists_mem_text hc hline
    exact ⟨_, mem_drawing (hmem s hs) (List.mem_cons_of_mem _ List.mem_cons_self),
      Mark.writes_text hc ..⟩
  case quantity =>
    intro x hx hcategory char hc _
    obtain ⟨row, hrow, hmem⟩ := hrow x hx
    obtain ⟨first, rest, f, rfl, hfirst, shows, -⟩ := hrow.figures
    obtain ⟨hquantity, -⟩ := shows.of_standard hcategory
    have hmark : tableText p (quantityText x) p.quantityX (first.y + pt 8) ∈
        (Block.segment first).marks p := by
      simp [Block.marks, Segment.marks, hfirst, figuresMarks, hquantity]
    exact ⟨_, mem_drawing (hmem first List.mem_cons_self) hmark, Mark.writes_text hc ..⟩
  case remarks =>
    intro char hc hline
    obtain ⟨-, -, -, ending⟩ := run
    obtain ⟨b, hb, hc⟩ := ending.exists_mem_text hc hline
    obtain ⟨x, y, style, hmark⟩ :
        ∃ x y style, .text b.text x y style ∈ (Block.remarks b).marks p :=
      ⟨_, _, _, List.mem_cons_of_mem _ (List.mem_cons_of_mem _ List.mem_cons_self)⟩
    exact ⟨_, mem_drawing (List.mem_append_right _ (mem_of_mem_boxes hb)) hmark,
      Mark.writes_text hc ..⟩

end Layout

end

end Billing

import Billing.Office
import Billing.Proofs.Drawing.Standard
import Billing.Proofs.PriceBounds
import Billing.Proofs.Rows

/-!
# What becomes of a document

Every printer knows the colours that a document needs (`isColoured_of_render`), so that what was
drawn is printed to its end. With the usual measures a document is printed unless an integer is too
long to be written, half a character would be painted, or the canvas cannot write the file
(`Printed`).

* `isWritable_of_render`: the integers of a document that was drawn can be written.
* `printed`: what becomes of a document.
-/

namespace Billing

/-! ## Colours -/

section

variable {α : Type}

/-- Whether a printer with the palette knows the colours that a mark needs. -/
def Mark.IsColoured (palette : Palette) : Mark α → Prop
  | .text _ _ _ style => palette.Knows style.color
  | .rect _ _ _ _ stroke fill _ =>
    (∀ color ∈ Canvas.given? stroke, palette.Knows color) ∧
      ∀ color ∈ Canvas.given? fill, palette.Knows color
  | .line _ _ _ _ color _ => palette.Knows color
  | .newPage | .seal .. => True

theorem Calls.fault_withColor {palette : Palette} {name : String} (h : palette.Knows name)
    (call : Nat → Call α) : (withColor palette name call).fault = none := by
  obtain ⟨code, hcode⟩ := Option.isSome_iff_exists.1 h
  rw [withColor, hcode]
  rfl

theorem Calls.fault_andThen {x y : Calls α} (hx : x.fault = none) (hy : y.fault = none) :
    (x.andThen y).fault = none := by
  rw [andThen, hx]
  exact hy

variable [Coordinate α]

theorem Canvas.palette_draw (c : Canvas α) (m : Mark α) : (c.draw m).2.palette = c.palette := by
  cases m <;> rfl

theorem Canvas.fault_draw (c : Canvas α) {m : Mark α} (h : m.IsColoured c.palette) :
    (c.draw m).1.fault = none := by
  have hgiven {color : Option String} (hcolor : ∀ s ∈ color, c.palette.Knows s)
      (call : Nat → Call α) :
      (color.elim (Calls.done []) fun s => Calls.withColor c.palette s call).fault = none := by
    cases color with
    | none => rfl
    | some s => exact Calls.fault_withColor (hcolor s rfl) call
  cases m with
  | text text x y style =>
    exact Calls.fault_andThen rfl (Calls.fault_andThen (Calls.fault_withColor h _) rfl)
  | rect x y width height stroke fill lineWidth =>
    exact Calls.fault_andThen rfl (Calls.fault_andThen (hgiven h.1 _)
      (Calls.fault_andThen (hgiven h.2 _) rfl))
  | line x₁ y₁ x₂ y₂ color lineWidth =>
    exact Calls.fault_andThen rfl (Calls.fault_andThen (Calls.fault_withColor h _) rfl)
  | _ => rfl

/-- Marks in known colours are printed to their end. -/
theorem Canvas.fault_drawAll (c : Canvas α) {ms : List (Mark α)}
    (h : ∀ m ∈ ms, m.IsColoured c.palette) : (c.drawAll ms).1.fault = none := by
  induction ms generalizing c with
  | nil => rfl
  | cons m ms ih =>
    obtain ⟨hm, hms⟩ := List.forall_mem_cons.1 h
    simp only [drawAll, c.fault_draw hm]
    exact ih _ (c.palette_draw m ▸ hms)

/-- What every mark keeps of a canvas, marks drawn one after the other keep. -/
theorem Canvas.drawAll_keep {β : Type} (get : Canvas α → β)
    (hdraw : ∀ c m, get (c.draw m).2 = get c) (c : Canvas α) (ms : List (Mark α)) :
    get (c.drawAll ms).2 = get c := by
  induction ms generalizing c with
  | nil => rfl
  | cons m ms ih =>
    simp only [drawAll]
    split
    · exact hdraw c m
    · exact (ih _).trans (hdraw c m)

theorem Canvas.obstacle_drawAll (c : Canvas α) (ms : List (Mark α)) :
    (c.drawAll ms).2.obstacle = c.obstacle :=
  drawAll_keep (·.obstacle) (fun _ m => by cases m <;> rfl) c ms

theorem Canvas.pageHeight_drawAll (c : Canvas α) (ms : List (Mark α)) :
    (c.drawAll ms).2.pageHeight = c.pageHeight :=
  drawAll_keep (·.pageHeight) (fun _ m => by cases m <;> rfl) c ms

theorem Canvas.palette_drawAll (c : Canvas α) (ms : List (Mark α)) :
    (c.drawAll ms).2.palette = c.palette :=
  drawAll_keep (·.palette) palette_draw c ms

end

namespace Layout

variable {α : Type} [Coordinate α] {metrics : Metrics α} {p : LayoutParams α} {doc : Document}

theorem knows_black (palette : Palette) : palette.Knows "black" :=
  palette.knows_of_basic (by decide)

theorem IsInk.isColoured {m : Mark α} (h : IsInk m) (palette : Palette) : m.IsColoured palette := by
  cases h with
  | text _ _ _ hblack => exact show palette.Knows _ from hblack ▸ knows_black palette
  | line => exact knows_black palette
  | _ => trivial

theorem knows_remarksStyle (palette : Palette) (doc : Document) :
    palette.Knows (remarksStyle (α := α) doc).color := by
  have hcolor : (remarksStyle (α := α) doc).color =
      if doc.remarksAreDefault then "#666666" else "black" := by
    unfold remarksStyle
    split <;> rfl
  rw [hcolor]
  refine palette.knows_of_basic ?_
  split <;> decide

theorem HeaderRun.isColoured {bs : List (Block α)} {start : Cursor α} {bottom : α}
    (run : HeaderRun metrics p doc bs start bottom) (palette : Palette) :
    ∀ m ∈ drawing p bs, m.IsColoured palette :=
  List.forall_mem_flatMap.2 fun b hb m hm => ((run.isInk b hb).2 m hm).isColoured palette

/-- The blocks below the header are in colours that are the same for all documents, except the
remarks. -/
theorem Block.isColoured {b : Block α} {palette : Palette} (hheader : b.isHeader = false)
    (hremarks : ∀ box, b = .remarks box → palette.Knows box.style.color) :
    ∀ m ∈ b.marks p, m.IsColoured palette := by
  cases b with
  | newPage => simp [marks, Mark.IsColoured]
  | header => cases hheader
  | band y =>
    simp only [marks, headerMarks, List.forall_mem_cons, List.forall_mem_map]
    refine ⟨⟨?_, ?_⟩, fun _ _ => (isInk_tableText ..).isColoured palette⟩ <;>
      · rintro _ ⟨⟩
        exact palette.knows_of_basic (by decide)
  | segment s =>
    simp only [marks, Segment.marks, List.forall_mem_cons]
    exact ⟨show palette.Knows "#cccccc" from palette.knows_of_basic (by decide), knows_black palette,
      fun m hm => (s.isInk_figures p m hm).isColoured palette⟩
  | summary t => exact fun m hm => (t.isInk p m hm).isColoured palette
  | remarks box =>
    simp only [marks, boxMarks, List.forall_mem_cons]
    refine ⟨⟨?_, by simp [Canvas.given?]⟩, knows_black palette, hremarks box rfl, by simp⟩
    rintro _ ⟨⟩
    exact knows_black palette

theorem BoxRun.style_eq {style : TextStyle α} {whole : String} {lineHeight : α}
    {lines : List String} {c c' : Cursor α} {isFirst : Bool} {bs : List (Block α)}
    (run : BoxRun p style whole lineHeight lines c isFirst bs c') :
    ∀ box, .remarks box ∈ bs → box.style = style := by
  induction run with
  | done => simp
  | last _ start _ _ => cases start <;> simp [nextBox]
  | more _ start _ _ _ ih => cases start <;> simpa [nextBox] using ih

theorem ClosingRun.isColoured {c c' : Cursor α} {bs : List (Block α)}
    (run : ClosingRun metrics p doc c bs c') (palette : Palette) :
    ∀ m ∈ drawing p bs, m.IsColoured palette := by
  have hclosing := run.isClosing
  have hstyle : ∀ box, .remarks box ∈ bs → box.style = remarksStyle doc := by
    obtain ⟨start, -, -, -, -, boxes⟩ := run
    have := boxes.style_eq
    cases start <;> simpa
  exact List.forall_mem_flatMap.2 fun b hb =>
    Block.isColoured (Block.of_isClosing (hclosing b hb)).1 fun box hbox =>
      hstyle box (hbox ▸ hb) ▸ knows_remarksStyle palette doc

theorem isColoured_of_isTable {bs : List (Block α)} (h : ∀ b ∈ bs, b.isTable) (palette : Palette) :
    ∀ m ∈ drawing p bs, m.IsColoured palette := by
  refine List.forall_mem_flatMap.2 fun b hb =>
    Block.isColoured (Block.isHeader_of_isTable (h b hb)) ?_
  rintro box rfl
  cases h _ hb

/-- Every printer knows the colours of a document. -/
theorem isColoured_of_render {ms : List (Mark α)} {c : Cursor α}
    (h : doc.render metrics p = .ok (ms, c)) (palette : Palette) :
    ∀ m ∈ ms, m.IsColoured palette := by
  obtain ⟨bs, rfl, headers, table, entries, ending⟩ := exists_drawnAs h
  simp only [drawing_append, List.forall_mem_append]
  exact ⟨⟨⟨headers.isColoured palette, isColoured_of_isTable table.isTable.1 palette⟩,
    isColoured_of_isTable entries.isTable palette⟩, ending.isColoured palette⟩

/-! ## Integers -/

/-- The integers of a document that was drawn can be written. -/
theorem isWritable_of_render (canvas : metrics.IsCanvas) {ms : List (Mark α)} {c : Cursor α}
    (h : doc.render metrics p = .ok (ms, c)) : doc.IsWritable := by
  obtain ⟨bs, -, run⟩ := exists_drawnAs h
  obtain ⟨totals, -, shown⟩ := run.exists_totals
  obtain ⟨rows, -, hrows⟩ := run.exists_rows canvas
  have hshows : ∀ x ∈ doc.entries, ∃ f, x.Shows f := fun x hx => by
    obtain ⟨row, -, hrow⟩ := exists_of_mem_right (r := flip _) hrows.flip hx
    obtain ⟨_, _, f, -, -, shows, -⟩ := hrow.figures
    exact ⟨f, shows⟩
  constructor
  case amount =>
    intro x hx
    obtain ⟨f, shows⟩ := hshows x hx
    exact isWritable_of_yen shows.amount
  case unitPrice =>
    intro x hx hcategory
    obtain ⟨f, shows⟩ := hshows x hx
    obtain ⟨-, price, hprice, -⟩ := shows.of_standard hcategory
    exact isWritable_of_yen hprice
  case subtotal => exact isWritable_of_yen shown.subtotal
  case tax => exact isWritable_of_yen shown.tax
  case grandTotal => exact isWritable_of_yen shown.total

end Layout

/-! ## Printing -/

/-- Whether calls paint the character that stands for halves of characters. -/
def IsTorn {α : Type} (filler : Option Char) (calls : List (Call α)) : Prop :=
  ∃ half ∈ filler, ∃ call ∈ calls, call.paints half

theorem any_paints {α : Type} {filler : Option Char} {calls : List (Call α)} :
    (filler.any fun half => calls.any (Call.paints half)) = true ↔ IsTorn filler calls := by
  simp [IsTorn, Option.any_eq_true]

/-- What becomes of a document in which a character may stand for halves of characters. -/
inductive Printed (o : Office) (filler : Option Char) (d : Document) :
    Except Error Printout → Prop where
  | overlong (hlong : ¬ d.IsWritable) : Printed o filler d (.error (.fault .digitLimit))
  | torn (hshort : d.IsWritable) {marks c}
    (hdrawn : d.render o.canvas.metrics o.layout = .ok (marks, c))
    (htorn : IsTorn filler (o.canvas.drawAll marks).1.calls) :
    Printed o filler d (.error (.fault .strayHalf))
  | unwritten (hshort : d.IsWritable) {reason} (hobstacle : o.canvas.obstacle = some reason) :
    Printed o filler d (.error (.unwritten reason))
  | complete (hshort : d.IsWritable) {marks c}
    (hdrawn : d.render o.canvas.metrics o.layout = .ok (marks, c))
    (hwhole : ¬ IsTorn filler (o.canvas.drawAll marks).1.calls)
    (hobstacle : o.canvas.obstacle = none) {printout}
    (hcalls : printout.calls = (o.canvas.drawAll marks).1.calls ++ [.save]) :
    Printed o filler d (.ok printout)

theorem exists_taxLabel_of_isSized {rate : Decimal} {n : Nat} (h : rate.IsSized n)
    (hn : n ≤ 300000) : ∃ s, taxLabel rate = .ok s := by
  have hhundred : (Decimal.ofInt 100).IsSized 3 := Decimal.isSized_ofInt (by norm_num)
  obtain ⟨x, -, hx, -⟩ := h.exists_hundredth hhundred (by omega)
  exact ⟨_, taxLabel_of_mul hx⟩

/-- With the usual measures an office prints every document whose integers it can write, unless half
a character is in the way or its canvas cannot write the file. -/
theorem printed {o : Office} (hlayout : o.layout = .standard) (filler : Option Char)
    {d : Document} (issuer : d.issuer.IsPrintable) (label : ∃ s, taxLabel d.taxRate = .ok s) :
    Printed o filler d (o.print filler d) := by
  cases hrender : d.render o.canvas.metrics o.layout with
  | error cause =>
    have hstops := Layout.stopsBy_render_standard issuer label o.canvas.pageWidth
    rw [← hlayout] at hstops
    obtain ⟨rfl, hlong⟩ := hstops cause hrender
    have hprint : o.print filler d = .error (.fault .digitLimit) := by
      rw [Office.print, hrender]
      rfl
    exact hprint ▸ .overlong hlong
  | ok drawn =>
    obtain ⟨marks, c⟩ := drawn
    have hshort := Layout.isWritable_of_render (.print _) hrender
    have hcoloured :=
      o.canvas.fault_drawAll (Layout.isColoured_of_render hrender o.canvas.palette)
    simp only [Office.print, hrender, Except.mapError, bind, Except.bind, hcoloured, Canvas.finish,
      o.canvas.obstacle_drawAll marks]
    by_cases htorn : IsTorn filler (o.canvas.drawAll marks).1.calls
    · rw [if_pos (any_paints.2 htorn)]
      exact .torn hshort hrender htorn
    · rw [if_neg (mt any_paints.1 htorn)]
      cases hobstacle : o.canvas.obstacle with
      | some reason => exact .unwritten hshort hobstacle
      | none => exact .complete hshort hrender htorn hobstacle rfl

end Billing

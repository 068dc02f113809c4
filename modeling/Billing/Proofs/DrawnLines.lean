import Billing.Proofs.CarriedRemarks
import Billing.Proofs.GreedyLines
import Billing.Proofs.Number.Bounded
import Billing.Proofs.Number.Shortest
import Billing.Proofs.Printing

/-!
# Drawn as measured

In fonts of any measure, a text is drawn in the lines that it is wrapped to, one call for each, and
it is measured as high as these lines (`Canvas.SetsIn`). What a layout draws was wrapped before: the
segments of a row and the boxes of remarks are runs of lines that were wrapped once. Wrapped again
to the same width, each run is the same lines, so that it is as high as the room kept for it.

* `Canvas.lineCalls_eq`, `Canvas.baseline_rat`: the calls for lines, and where they stand.
* `Canvas.SetsIn.run`: a run of the lines of a text is drawn in these lines.
* `drawn_as_measured`: the texts of a canvas, and the rows and remarks of a document.
-/

namespace Billing

open Coordinate

/-! ## Single lengths -/

/-- Lengths that are themselves when they are counted once. -/
class UnitCoordinate (α : Type) [Coordinate α] : Prop where
  ofCount_one_mul (x : α) : ofCount 1 * x = x

instance : UnitCoordinate Rat where
  ofCount_one_mul x := by rw [ofCount_rat, Nat.cast_one, one_mul]

namespace Magnitude

/-- A magnitude is the nearest one to itself. -/
theorem nearest?_toRat (x : Magnitude) : nearest? x.toRat.num.natAbs x.toRat.den = some x := by
  obtain hzero | hpos := x.toRat_nonneg.eq_or_lt
  · -- zero has one representation
    have hmantissa : x.mantissa = 0 := mantissa_eq_zero hzero.symm
    obtain ⟨m, e, hm, hlow, hhigh, hfull⟩ := x
    obtain rfl : m = 0 := hmantissa
    obtain rfl : e = -1074 := hfull.resolve_left (by norm_num)
    rw [← hzero]
    rfl
  · refine nearest?_of_eq_toRat (Int.natAbs_pos.2 (Rat.num_pos.2 hpos).ne') x.toRat.pos ?_
    rw [Binary64.natAbs_num_div_den, abs_of_pos hpos]

/-- The magnitude one. -/
def one : Magnitude := ⟨2 ^ 52, -52, by decide⟩

theorem toRat_one : one.toRat = 1 := by norm_num [one, toRat]

end Magnitude

theorem Binary64.ofRat_one : ofRat 1 = finite false .one := by
  have hone := Magnitude.nearest?_toRat .one
  rw [Magnitude.toRat_one] at hone
  rw [ofRat, ofQuotient, hone]
  rfl

instance : UnitCoordinate Binary64 where
  ofCount_one_mul x := by
    have hone : (ofCount 1 : Binary64) = .finite false .one := Binary64.ofRat_one
    rw [hone]
    change Binary64.mul _ x = x
    cases x with
    | finite s m =>
      rw [Binary64.mul, Magnitude.toRat_one, one_mul, Binary64.ofQuotient, m.nearest?_toRat,
        Bool.false_bne]
    | infinity s => cases s <;> rfl
    | nan => rfl

/-! ## Lines of a measure -/

namespace Metrics

variable {α : Type} [Coordinate α] {measure : TextMeasure α} {pageWidth : α} {s : String}
  {width : Option α} {typeface : Typeface} {size : α} {lines : List String}

theorem ofMeasure_keepsLines (measure : TextMeasure α) (pageWidth : α) :
    (ofMeasure measure pageWidth).KeepsLines := by
  intro s width typeface size lines h run hrun hne
  obtain rfl := ofMeasure_wrap_eq_ok.1 h
  have hsub : run.map String.toList ⊆ measure.wrap typeface s.toList width size := by
    intro line hline
    obtain ⟨l, hl, rfl⟩ := List.mem_map.1 hline
    obtain ⟨line, hline, rfl⟩ := List.mem_map.1 (hrun hl)
    rwa [String.toList_ofList]
  rw [ofMeasure_wrap_eq_ok, Text.toList_unlines, TextMeasure.wrap,
    wrapText_joinWith hsub (by simpa using hne), List.map_map]
  simp [Function.comp_def]

end Metrics

/-! ## Texts on a canvas -/

/-- The height of one line of a text. -/
def TextStyle.lineHeight {α : Type} [Coordinate α] (style : TextStyle α) : α :=
  style.size * pt (6 / 5) + style.lineGap

namespace Canvas

variable {α : Type} [Coordinate α]

/-- What a layout has to know of the canvas in fonts of a measure. -/
abbrev metricsBy (c : Canvas α) (measure : TextMeasure α) : Metrics α :=
  .ofMeasure measure c.pageWidth

/-- Where a line of a text at a height stands: the first one has its top there, and every line is
one line height below the line before. -/
def baseline (c : Canvas α) (y : α) (style : TextStyle α) (i : Nat) : α :=
  (· - style.lineHeight)^[i] (c.flip y - style.size * pt (22 / 25))

/-- A text is set in lines: these are the lines it is wrapped to, it is measured to be as high as
they are, and drawing it paints each of them once, in order, on a baseline of its own. -/
structure SetsIn (c : Canvas α) (measure : TextMeasure α) (text : String) (x y : α)
    (style : TextStyle α) (lines : List String) : Prop where
  wrap : (c.metricsBy measure).wrap text style.width style.typeface style.size =
    .ok lines
  textHeight : (c.metricsBy measure).textHeight text style.width style.typeface
    style.size style.lineGap = .ok (ofCount lines.length * style.lineHeight)
  calls : ∃ color, c.textCallsBy measure text x y style =
    .done (.setFont style.typeface.builtinFont style.size :: .setFillColor color none ::
      lines.mapIdx fun i line =>
        .drawString (anchor style x).1 (anchor style x).2 (c.baseline y style i) line)

theorem lineCalls_eq (alignment : Alignment) (x lineHeight y : α) (lines : List (List Char)) :
    lineCalls alignment x lineHeight y lines = (lines.map String.ofList).mapIdx fun i line =>
      .drawString alignment x ((· - lineHeight)^[i] y) line := by
  induction lines generalizing y with
  | nil => rfl
  | cons line lines ih =>
    rw [lineCalls, ih, List.map_cons, List.mapIdx_cons]
    rfl

theorem setsIn_of_wrap (c : Canvas α) {measure : TextMeasure α} {text : String} (x y : α)
    {style : TextStyle α} {lines : List String}
    (wrap : (c.metricsBy measure).wrap text style.width style.typeface
      style.size = .ok lines) (known : c.palette.Knows style.color) :
    c.SetsIn measure text x y style lines where
  wrap := wrap
  textHeight := Metrics.ofMeasure_textHeight wrap style.lineGap
  calls := by
    obtain ⟨color, hcolor⟩ := Option.isSome_iff_exists.1 known
    refine ⟨color, ?_⟩
    obtain rfl := Metrics.ofMeasure_wrap_eq_ok.1 wrap
    simp only [textCallsBy, lineCalls_eq, Calls.withColor, hcolor]
    rfl

theorem exists_setsIn (c : Canvas α) (measure : TextMeasure α) (text : String) (x y : α)
    {style : TextStyle α} (known : c.palette.Knows style.color) :
    ∃ lines, c.SetsIn measure text x y style lines :=
  ⟨_, c.setsIn_of_wrap x y rfl known⟩

/-- A run of the lines of a text, joined by newlines and drawn with the same typeface, size and
width, is set in these lines. -/
theorem SetsIn.run {c : Canvas α} {measure : TextMeasure α} {text : String} {x y : α}
    {style : TextStyle α} {lines run : List String} (h : c.SetsIn measure text x y style lines)
    (hrun : run ⊆ lines) (hne : run ≠ []) (x' y' : α) {style' : TextStyle α}
    (typeface : style'.typeface = style.typeface) (size : style'.size = style.size)
    (width : style'.width = style.width) (known : c.palette.Knows style'.color) :
    c.SetsIn measure (Text.unlines run) x' y' style' run := by
  refine c.setsIn_of_wrap x' y' ?_ known
  rw [typeface, size, width]
  exact Metrics.ofMeasure_keepsLines measure c.pageWidth h.wrap hrun hne

/-- In exact arithmetic, the baselines are 0.88 times the size below the top of the text, and 1.2
times the size and the gap apart. -/
theorem baseline_rat (c : Canvas Rat) (y : Rat) (style : TextStyle Rat) (i : Nat) :
    c.baseline y style i = c.pageHeight - y - 22 / 25 * style.size -
      i * (6 / 5 * style.size + style.lineGap) := by
  induction i with
  | zero => simp [baseline, flip, mul_comm]
  | succ i ih =>
    rw [baseline, Function.iterate_succ_apply', ← baseline, ih, TextStyle.lineHeight, pt_rat]
    push_cast
    ring

end Canvas

/-! ## Rows and remarks -/

namespace Layout

variable {α : Type} [Coordinate α] {measure : TextMeasure α} {c : Canvas α} {p : LayoutParams α}
  {doc : Document} {x : Entry} {bs : List (Block α)} {place end_ : Cursor α}

/-- How the names of entries are set. -/
def nameStyle (p : LayoutParams α) : TextStyle α :=
  { size := p.fontSize, width := p.nameColumnWidth, lineGap := p.lineGap }

/-- A row segment is set in the lines that it holds, and has the height of a row for its text. -/
structure Segment.IsSet (c : Canvas α) (measure : TextMeasure α) (p : LayoutParams α)
    (s : Segment α) : Prop where
  sets : c.SetsIn measure s.text p.nameX (s.y + pt 8) (nameStyle p) s.lines
  height : ∃ h, (c.metricsBy measure).textHeight s.text p.nameColumnWidth .gothic
    p.fontSize p.lineGap = .ok h ∧ s.height = p.rowHeight h

/-- The segments of an entry are set in their lines, and a single one has the height of a row for
the name. -/
structure IsSetRow (c : Canvas α) (measure : TextMeasure α) (p : LayoutParams α) (x : Entry)
    (row : List (Segment α)) : Prop
    extends IsRow (c.metricsBy measure) p x row where
  isSet : ∀ s ∈ row, s.IsSet c measure p
  single : ∀ s, row = [s] → ∃ h, (c.metricsBy measure).textHeight x.name
    p.nameColumnWidth .gothic p.fontSize p.lineGap = .ok h ∧ s.height = p.rowHeight h

/-- A box of remarks is set in the lines that it holds, and has room for the height of its text. -/
structure RemarksBox.IsSet (c : Canvas α) (measure : TextMeasure α) (p : LayoutParams α)
    (doc : Document) (b : RemarksBox α) : Prop where
  style_eq : b.style = remarksStyle doc
  sets : c.SetsIn measure b.text (p.marginLeft + pt 10) (b.y + pt 20)
    { b.style with width := some (p.contentWidth - pt 20) } b.lines
  height : ∃ h, (c.metricsBy measure).textHeight b.text
    (some (p.contentWidth - pt 20)) .gothic b.style.size b.style.lineGap = .ok h ∧
    b.height = greater (h + pt 25) (smaller p.remarksBoxHeight (p.blockBottom - b.y))

/-- The boxes carry the remarks of a document, the first with their title and the further ones with
the rest of their lines, and each is set in the lines that it holds. -/
structure AreSetRemarks (c : Canvas α) (measure : TextMeasure α) (p : LayoutParams α)
    (doc : Document) (bs : List (RemarksBox α)) : Prop where
  carries : ∃ first further, bs = first :: further ∧
    CarriesRemarks (c.metricsBy measure) p doc first further
  isSet : ∀ b ∈ bs, b.IsSet c measure p doc

theorem RowRun.height_eq {lineHeight : α} {lines : List String} {fresh isFirst : Bool}
    (run : RowRun p x lineHeight lines place fresh isFirst bs end_) :
    ∀ s ∈ segments bs, s.height = p.rowHeight (ofCount s.lines.length * lineHeight) := by
  induction run with
  | done => simp
  | newPage _ _ _ ih => exact ih
  | segment _ _ _ _ _ ih => exact List.forall_mem_cons.2 ⟨rfl, ih⟩

theorem BoxRun.height_eq {style : TextStyle α} {whole : String} {lineHeight : α}
    {lines : List String} {isFirst : Bool}
    (run : BoxRun p style whole lineHeight lines place isFirst bs end_) :
    ∀ b ∈ boxes bs, b.height = greater (ofCount b.lines.length * lineHeight + pt 25)
      (smaller p.remarksBoxHeight (p.blockBottom - b.y)) := by
  induction run with
  | done => simp [boxes]
  | last _ start _ _ =>
    rw [boxes_append, start.boxes_eq]
    exact List.forall_mem_singleton.2 rfl
  | more _ start _ _ _ ih =>
    rw [boxes_append, start.boxes_eq]
    exact List.forall_mem_cons.2 ⟨rfl, ih⟩

section Unit

variable [UnitCoordinate α]

/-- One line is as high as the first line of a text is measured. -/
theorem lineHeight_eq {pageWidth : α} {s : String} {width : Option α} {typeface : Typeface}
    {size lineGap lineHeight : α} {lines : List String}
    (wrapped : (Metrics.ofMeasure measure pageWidth).wrap s width typeface size = .ok lines)
    (measured : (Metrics.ofMeasure measure pageWidth).textHeight (lines.headD "") none typeface
      size lineGap = .ok lineHeight) : lineHeight = size * pt (6 / 5) + lineGap := by
  rw [(Metrics.IsCanvas.ofMeasure measure pageWidth).textHeight_headD wrapped] at measured
  exact (Except.ok.inj measured).symm.trans (UnitCoordinate.ofCount_one_mul _)

theorem RowRun.isSetRow {lines : List String} {lineHeight : α} {fresh : Bool}
    (wrapped : (c.metricsBy measure).wrap x.name p.nameColumnWidth .gothic
      p.fontSize = .ok lines)
    (measured : (c.metricsBy measure).textHeight (lines.headD "") none .gothic
      p.fontSize p.lineGap = .ok lineHeight)
    (run : RowRun p x lineHeight lines place fresh true bs end_) :
    IsSetRow c measure p x (segments bs) := by
  have isRow := run.isRow wrapped (Metrics.ofMeasure_wrap_ne_nil wrapped)
  obtain rfl := lineHeight_eq wrapped measured
  have wrap_text := isRow.wrap_text (Metrics.ofMeasure_keepsLines measure c.pageWidth)
  have isSet (s) (hs : s ∈ segments bs) : s.IsSet c measure p :=
    { sets := c.setsIn_of_wrap _ _ (wrap_text s hs) (knows_black c.palette)
      height := ⟨_, Metrics.ofMeasure_textHeight (wrap_text s hs) _, run.height_eq s hs⟩ }
  refine ⟨isRow, isSet, fun s hs => ?_⟩
  have hheight := (isSet s (hs ▸ List.mem_singleton_self s)).height
  rwa [isRow.text_of_single s hs] at hheight

theorem TableRun.exists_isSetRow {xs : List Entry} {fresh : Bool}
    (run : TableRun (c.metricsBy measure) p xs place fresh bs end_) :
    ∃ rows, segments bs = rows.flatten ∧ List.Forall₂ (IsSetRow c measure p) xs rows := by
  induction run with
  | done => exact ⟨[], rfl, .nil⟩
  | @row x xs _ _ _ _ bs _ bs' _ wrapped measured row _ ih =>
    obtain ⟨rows, hrows, hall⟩ := ih
    exact ⟨segments bs :: rows, by simp [hrows], .cons (row.isSetRow wrapped measured) hall⟩

theorem ClosingRun.isSet (run : ClosingRun (c.metricsBy measure) p doc place bs end_) :
    ∀ b ∈ boxes bs, b.IsSet c measure p doc := by
  obtain ⟨start, -, -, wrapped, measured, run⟩ := run
  rename_i bs₁ c₁ t lines lineHeight bs
  have hboxes : boxes (bs₁ ++ .summary t :: bs) = boxes bs := by cases start <;> rfl
  rw [hboxes]
  obtain rfl := lineHeight_eq wrapped measured
  intro b hb
  have hstyle := (run.text_eq b hb).1
  have hwrap := run.wrap_text (Metrics.ofMeasure_keepsLines measure c.pageWidth) wrapped b hb
  rw [← hstyle] at hwrap
  have htypeface : b.style.typeface = .gothic := by
    rw [hstyle, remarksStyle]
    split <;> rfl
  refine ⟨hstyle, c.setsIn_of_wrap _ _ ?_ ?_, _, Metrics.ofMeasure_textHeight hwrap _, ?_⟩
  · exact htypeface ▸ hwrap
  · exact hstyle ▸ knows_remarksStyle c.palette doc
  · rw [run.height_eq b hb, hstyle]
    rfl

/-- The boxes that a document ends with carry its remarks and are set in the lines that they hold. -/
theorem DocumentRun.areSetRemarks (run : DocumentRun (c.metricsBy measure) p doc bs end_) :
    AreSetRemarks c measure p doc (boxes bs) := by
  obtain ⟨headers, table, entries, ending⟩ := run
  rw [boxes_document headers table entries]
  obtain ⟨_, first, further, _, -, hboxes, -, carries⟩ :=
    ending.exists_carriesRemarks (.ofMeasure measure c.pageWidth)
  exact ⟨⟨first, further, hboxes, carries⟩, ending.isSet⟩

/-- The rows and the boxes of remarks of a document are set in the lines that they hold, and have
the height that their texts are measured to have. -/
theorem isSet_of_render {ms : List (Mark α)}
    (h : doc.render (c.metricsBy measure) p = .ok (ms, end_)) :
    ∃ bs, DrawnAs (c.metricsBy measure) p doc ms end_ bs ∧
      (∃ rows, segments bs = rows.flatten ∧
        List.Forall₂ (IsSetRow c measure p) doc.entries rows) ∧
      AreSetRemarks c measure p doc (boxes bs) := by
  obtain ⟨bs, rfl, run⟩ := exists_drawnAs h
  obtain ⟨_, _, _, _, _, _, -, entries, hsegments⟩ := run.exists_entries
  obtain ⟨rows, hrows, hall⟩ := entries.exists_isSetRow
  exact ⟨bs, ⟨rfl, run⟩, ⟨rows, hsegments.trans hrows, hall⟩, run.areSetRemarks⟩

end Unit

end Layout

/-- What is measured is what is drawn, in fonts of any measure: every text is set in the lines that
it is wrapped to, and a run of them again in this run, so that what a document draws of its names
and its remarks is as high as the room that is kept for it. -/
theorem drawn_as_measured {α : Type} [Coordinate α] [UnitCoordinate α] (measure : TextMeasure α)
    (c : Canvas α) :
    (∀ text x y (style : TextStyle α), c.palette.Knows style.color →
      ∃ lines, c.SetsIn measure text x y style lines) ∧
    (∀ text x y style lines, c.SetsIn measure text x y style lines →
      ∀ run, run <:+: lines → run ≠ [] → ∀ x' y' (style' : TextStyle α),
        style'.typeface = style.typeface → style'.size = style.size →
        style'.width = style.width → c.palette.Knows style'.color →
        c.SetsIn measure (Text.unlines run) x' y' style' run) ∧
    (∀ p (doc : Document) ms place, doc.render (c.metricsBy measure) p = .ok (ms, place) →
      ∃ bs, Layout.DrawnAs (c.metricsBy measure) p doc ms place bs ∧
        (∃ rows, Layout.segments bs = rows.flatten ∧
          List.Forall₂ (Layout.IsSetRow c measure p) doc.entries rows) ∧
        Layout.AreSetRemarks c measure p doc (Layout.boxes bs)) ∧
    ∀ (c : Canvas Rat) y style i, c.baseline y style i =
      c.pageHeight - y - 22 / 25 * style.size - i * (6 / 5 * style.size + style.lineGap) :=
  ⟨fun text x y _ known => c.exists_setsIn measure text x y known,
    fun _ _ _ _ _ sets _ hrun hne x' y' _ typeface size width known =>
      sets.run hrun.subset hne x' y' typeface size width known,
    fun _ _ _ _ h => Layout.isSet_of_render h,
    Canvas.baseline_rat⟩

/-- A text of two lines, the second of them, and the specimen on a sheet of paper. -/
theorem drawn_as_measured_on_sheet :
    ∃ c : Canvas Rat,
      c.SetsIn Typeface.textWidth (Text.unlines ["搬入", "設置"]) 40 100 (.plain 10)
        ["搬入", "設置"] ∧
      c.SetsIn Typeface.textWidth (Text.unlines ["設置"]) 40 100 (.plain 10) ["設置"] ∧
      ∃ ms place, specimen.render c.metrics .standard = .ok (ms, place) ∧
        ∃ bs, Layout.DrawnAs c.metrics .standard specimen ms place bs ∧
          (∃ rows, Layout.segments bs = rows.flatten ∧ List.Forall₂
            (Layout.IsSetRow c Typeface.textWidth .standard) specimen.entries rows) ∧
          Layout.AreSetRemarks c Typeface.textWidth .standard specimen (Layout.boxes bs) := by
  let c : Canvas Rat := { pageWidth := 595, pageHeight := 842, random := fun _ => 0 }
  obtain ⟨sets, runs, renders, -⟩ := drawn_as_measured Typeface.textWidth c
  have known : c.palette.Knows (TextStyle.plain 10 : TextStyle Rat).color :=
    Layout.knows_black c.palette
  have hwrap : (c.metricsBy Typeface.textWidth).wrap (Text.unlines ["搬入", "設置"]) none .gothic
      (pt 10) = .ok ["搬入", "設置"] := by
    rw [Metrics.ofMeasure_wrap_eq_ok, TextMeasure.wrap, Option.map_none, wrapText_eq,
      Text.toList_unlines, Text.splitOn_joinWith (by decide) (by decide)]
    rfl
  obtain ⟨lines, hsets⟩ := sets (Text.unlines ["搬入", "設置"]) 40 100 (.plain 10) known
  obtain rfl : ["搬入", "設置"] = lines := Except.ok.inj (hwrap.symm.trans hsets.wrap)
  obtain ⟨ms, place, h⟩ := exists_render_specimen (.print 595)
  refine ⟨c, hsets, ?_, ms, place, h, renders _ _ _ _ h⟩
  exact runs _ _ _ _ _ hsets ["設置"] ⟨["搬入"], [], rfl⟩ (List.cons_ne_nil _ _) 40 100 _ rfl rfl
    rfl known

end Billing

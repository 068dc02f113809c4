import Billing.Proofs.Drawing.Success
import Billing.Proofs.Headings
import Billing.Proofs.Number.Reading

/-!
# Where the header blocks end

In exact arithmetic, on a grid and with the usual measures: the table starts below the bottoms that
the blocks of the client and the issuer return. These are the ends of everything that is drawn in
the blocks (`Mark.EndsAbove`) but of two texts, for which no height is reckoned in: the client's
person, who is given one line and may take more, and the issuer's name, which is not wrapped but may
hold newlines.

* `HeaderRun.endsAbove_iff`: the header blocks end above a place below their bottom exactly if these
  two texts do.
* `header_placed_of_render`: so do those of a rendered document whose table starts on the first
  page; and they do if the person takes at most nine lines and the name at most seven.
* `exists_overlap_crowdedSpecimen`: a document of which the person's text runs into the table.
-/

namespace Billing

open Coordinate

/-- Whether a mark ends at a height or above it. The height of a text is that of its lines. -/
def Mark.EndsAbove (metrics : Metrics Rat) (y : Rat) : Mark Rat → Prop
  | .newPage => True
  | .text s _ top style =>
    ∃ height, metrics.textHeight s style.width style.typeface style.size style.lineGap =
      .ok height ∧ top + height ≤ y
  | .rect _ top _ height _ _ _ => top + height ≤ y
  | .line _ y₁ _ y₂ _ _ => y₁ ≤ y ∧ y₂ ≤ y
  | .seal _ top _ size => top + size ≤ y

namespace Mark

variable {metrics : Metrics Rat} {y y' : Rat}

theorem EndsAbove.mono {m : Mark Rat} (h : m.EndsAbove metrics y) (hy : y ≤ y') :
    m.EndsAbove metrics y' := by
  cases m with
  | newPage => trivial
  | text =>
    obtain ⟨height, hheight, hle⟩ := h
    exact ⟨height, hheight, hle.trans hy⟩
  | line => exact ⟨h.1.trans hy, h.2.trans hy⟩
  | _ => exact le_trans h hy

theorem endsAbove_text_iff {s : String} {x top height : Rat} {style : TextStyle Rat}
    (h : metrics.textHeight s style.width style.typeface style.size style.lineGap = .ok height) :
    (Mark.text s x top style).EndsAbove metrics y ↔ top + height ≤ y := by
  simp [EndsAbove, h]

end Mark

/-! ## Lines on a grid -/

theorem Metrics.linesHeight_rat (count : Nat) (size lineGap : Rat) :
    Metrics.linesHeight count size lineGap = count * (size * (6 / 5) + lineGap) := rfl

theorem length_chunks_le {count : Nat} {s : List Char} (h : s ≠ []) :
    (chunks count s).length ≤ s.length := by
  induction s using chunks.induct count with
  | case1 s hs =>
    rw [chunks, dif_pos hs, List.length_singleton]
    exact List.length_pos_iff.2 h
  | case2 s hs ih =>
    have hdrop : s.drop count ≠ [] := by simpa using fun hle => hs (.inl hle)
    have hle := ih hdrop
    rw [List.length_drop] at hle
    rw [chunks, dif_neg hs, List.length_cons]
    omega

/-- A text without newlines takes at most as many lines of a grid as it has characters. -/
theorem exists_textHeight_le (pageWidth width : Rat) {size : Rat} (hsize : 0 < size) {s : String}
    (hne : s.toList ≠ []) (hline : '\n' ∉ s.toList) (typeface : Typeface) :
    ∃ height, (Metrics.grid pageWidth).textHeight s (some width) typeface size 0 = .ok height ∧
      height ≤ s.toList.length * (size * (6 / 5)) := by
  have hlines : gridWrap s.toList (some width) size =
      .ok (chunks (max 1 ⌊width / size⌋.toNat) s.toList) := by
    rw [gridWrap_eq, Text.splitOn_of_not_mem hline]
    simp [gridPieces, hne, floorQuotient_rat hsize.ne', bind, Except.bind, pure, Except.pure]
  refine ⟨_, exceptMap_eq_ok.2 ⟨_, hlines, rfl⟩, ?_⟩
  · rw [Metrics.linesHeight_rat, add_zero]
    gcongr
    exact_mod_cast length_chunks_le hne

/-- A text without newlines that is not wrapped is one line high. -/
theorem textHeight_line_rat {metrics : Metrics Rat} (canvas : metrics.IsCanvas) {s : String}
    (hline : '\n' ∉ s.toList) (typeface : Typeface) (size : Rat) :
    metrics.textHeight s none typeface size 0 = .ok (size * (6 / 5)) := by
  rw [canvas.textHeight_line hline, Metrics.linesHeight_rat, Nat.cast_one, one_mul, add_zero]

namespace Layout

/-! ## Title and date -/

section

variable {pageWidth : Rat} {doc : Document}

theorem exists_place_of_drawTitle {c : Cursor Rat} {ms : List (Mark Rat)}
    (h : drawTitle (.grid pageWidth) doc ⟨1, pt 40⟩ = .ok (ms, c)) :
    c = ⟨1, 507 / 5⟩ ∧ ∀ m ∈ ms, m.EndsAbove (.grid pageWidth) 280 := by
  obtain ⟨hne, hline, hlength⟩ := doc.kind.toList_title
  simp only [drawTitle, bind_eq_ok, pure_eq_ok, Prod.mk.injEq] at h
  obtain ⟨height, hheight, rfl, rfl⟩ := h
  obtain rfl := Except.ok.inj (hheight.symm.trans (textHeight_line_rat (.grid pageWidth) hline _ _))
  obtain ⟨wrapped, hwrapped, hle⟩ :=
    exists_textHeight_le pageWidth pageWidth (by norm_num : (0 : Rat) < 22) hne hline .mincho
  have hseven : (doc.kind.title.toList.length : Rat) ≤ 7 := by exact_mod_cast hlength
  refine ⟨by norm_num, ?_⟩
  simp only [List.forall_mem_cons, List.not_mem_nil, false_imp_iff, implies_true, and_true]
  refine ⟨⟨wrapped, hwrapped, ?_⟩, ?_, ?_⟩
  · norm_num
    linarith only [hle, hseven]
  · norm_num [rule, Mark.EndsAbove]
  · norm_num [rule, Mark.EndsAbove]

theorem exists_place_of_drawDate (hdate : doc.issuedOn.isInCalendar) {c : Cursor Rat}
    {ms : List (Mark Rat)}
    (h : drawDate (.grid pageWidth) .standard doc ⟨1, 507 / 5⟩ = .ok (ms, c)) :
    c = ⟨1, 567 / 5⟩ ∧ ∀ m ∈ ms, m.EndsAbove (.grid pageWidth) 280 := by
  have hline := doc.issuedOn.newline_not_mem_text
  simp only [drawDate, bind_eq_ok, pure_eq_ok, Prod.mk.injEq] at h
  obtain ⟨height, hheight, rfl, rfl⟩ := h
  obtain rfl := Except.ok.inj (hheight.symm.trans (textHeight_line_rat (.grid pageWidth) hline _ _))
  obtain ⟨wrapped, hwrapped, hle⟩ := exists_textHeight_le pageWidth 515
    (by norm_num : (0 : Rat) < 10) doc.issuedOn.text_ne_nil hline .gothic
  have hshort : (doc.issuedOn.text.toList.length : Rat) ≤ 13 := by
    exact_mod_cast Date.length_text_le hdate
  refine ⟨by norm_num [Cursor.advance], ?_⟩
  rw [List.forall_mem_singleton]
  refine ⟨wrapped, hwrapped, ?_⟩
  linarith only [hle, hshort]

/-! ## The client -/

/-- Where the client's person stands, below a company of so many lines. -/
def personTop (count : Nat) : Rat := 667 / 5 + max 25 (Metrics.linesHeight count 14 0 + 8)

theorem linesHeight_le_personTop (count : Nat) :
    667 / 5 + Metrics.linesHeight count (14 : Rat) 0 + 8 ≤ personTop count := by
  rw [personTop]
  linarith only [le_max_right (25 : Rat) (Metrics.linesHeight count 14 0 + 8)]

theorem newline_not_mem_append {s t : String} (hs : '\n' ∉ s.toList) (ht : '\n' ∉ t.toList) :
    '\n' ∉ (s ++ t).toList := by
  simp [hs, ht]

/-- The block of the client ends above a place below its bottom exactly if the person does. -/
theorem exists_of_drawClient {ms : List (Mark Rat)} {bottom : Rat}
    (h : drawClient (.grid pageWidth) doc ⟨1, 667 / 5⟩ = .ok (ms, bottom)) :
    ∃ company person,
      (Metrics.grid pageWidth).wrap (doc.clientCompany ++ "  御中") (some 250) .mincho 14 =
        .ok company ∧
      (Metrics.grid pageWidth).wrap (doc.clientPerson ++ "  様") (some 250) .mincho 11 =
        .ok person ∧
      bottom = personTop company.length + 90 ∧
      ∀ y, bottom + 40 ≤ y → ((∀ m ∈ ms, m.EndsAbove (.grid pageWidth) y) ↔
        personTop company.length + Metrics.linesHeight person.length 11 0 ≤ y) := by
  have canvas : (Metrics.grid pageWidth).IsCanvas := .grid pageWidth
  simp only [drawClient, bind_eq_ok, pure_eq_ok, Prod.mk.injEq] at h
  obtain ⟨height, hheight, total, htotal, rfl, rfl⟩ := h
  obtain ⟨company, hcompany⟩ := canvas.wraps (by norm_num : (14 : Rat) ≠ 0)
    (doc.clientCompany ++ "  御中") (some 250) .mincho
  obtain ⟨person, hperson⟩ := canvas.wraps (by norm_num : (11 : Rat) ≠ 0)
    (doc.clientPerson ++ "  様") (some 250) .mincho
  have hcompanyHeight := canvas.textHeight_of_wrap hcompany 0
  obtain rfl := Except.ok.inj (hheight.symm.trans hcompanyHeight)
  have htop : (667 / 5 : Rat) + greater (pt 25) (Metrics.linesHeight company.length (14 : Rat) 0 +
      pt 8) = personTop company.length := by
    rw [greater_rat]
    rfl
  have hcompanyTop := linesHeight_le_personTop company.length
  have hgreeting : '\n' ∉ doc.kind.greeting.toList := by cases doc.kind <;> decide
  have hlabel : '\n' ∉ doc.kind.amountLabel.toList := by cases doc.kind <;> decide
  have hfigure : '\n' ∉ ("¥ " ++ total ++ " (税込)").toList :=
    newline_not_mem_append
      (newline_not_mem_append (by decide) (newline_not_mem_of_groupedText htotal)) (by decide)
  refine ⟨company, person, hcompany, hperson, ?_, fun y hy => ?_⟩
  · rw [htop, pt_rat, pt_rat]
    ring
  rw [htop, pt_rat, pt_rat] at hy ⊢
  simp only [List.forall_mem_cons, List.not_mem_nil, false_imp_iff, implies_true, and_true]
  rw [Mark.endsAbove_text_iff hcompanyHeight,
    Mark.endsAbove_text_iff (canvas.textHeight_of_wrap hperson 0),
    Mark.endsAbove_text_iff (textHeight_line_rat canvas hgreeting _ _),
    Mark.endsAbove_text_iff (textHeight_line_rat canvas hlabel _ _),
    Mark.endsAbove_text_iff (textHeight_line_rat canvas hfigure _ _)]
  simp only [rule, Mark.EndsAbove, TextStyle.plain, pt_rat]
  refine ⟨fun h => h.2.1, fun h => ⟨?_, h, ⟨?_, ?_⟩, ?_, ?_, ?_, ?_, ?_⟩⟩ <;>
    linarith only [hy, hcompanyTop]

/-! ## The issuer -/

/-- The lines of the issuer end above the bottom that they return. -/
theorem endsAbove_of_drawIssuerLines {x width : Rat} {lines : List String} {y bottom : Rat}
    {ms : List (Mark Rat)}
    (h : drawIssuerLines (.grid pageWidth) x width lines y = .ok (ms, bottom)) :
    y ≤ bottom ∧ ∀ m ∈ ms, m.EndsAbove (.grid pageWidth) bottom := by
  induction lines generalizing y bottom ms with
  | nil =>
    simp only [drawIssuerLines, Except.ok.injEq, Prod.mk.injEq] at h
    obtain ⟨rfl, rfl⟩ := h
    exact ⟨le_rfl, by simp⟩
  | cons s lines ih =>
    simp only [drawIssuerLines, bind_eq_ok, pure_eq_ok, Prod.exists, Prod.mk.injEq] at h
    obtain ⟨height, hheight, rest, _, hrest, rfl, rfl⟩ := h
    obtain ⟨hle, hends⟩ := ih hrest
    rw [greater_rat, pt_rat] at hle
    refine ⟨?_, List.forall_mem_cons.2 ⟨⟨height, hheight, ?_⟩, hends⟩⟩
    · linarith only [hle, le_max_left 15 height]
    · linarith only [hle, le_max_right 15 height]

/-- The block of the issuer ends above a place below its bottom exactly if the name does. -/
theorem exists_of_drawIssuer_grid {ms : List (Mark Rat)} {bottom : Rat}
    (h : drawIssuer (.grid pageWidth) .standard doc ⟨1, 667 / 5⟩ = .ok (ms, bottom)) :
    ∃ name names, doc.issuer.companyName = .str name ∧
      (Metrics.grid pageWidth).wrap name none .mincho 13 = .ok names ∧
      ∀ y, bottom + 40 ≤ y → 280 ≤ y → ((∀ m ∈ ms, m.EndsAbove (.grid pageWidth) y) ↔
        867 / 5 + Metrics.linesHeight names.length 13 0 ≤ y) := by
  have canvas : (Metrics.grid pageWidth).IsCanvas := .grid pageWidth
  obtain ⟨name, lines, rest, hname, -, hrest, rfl⟩ := exists_of_drawIssuer h
  obtain ⟨names, hnames⟩ := canvas.wraps (by norm_num : (13 : Rat) ≠ 0) name none .mincho
  refine ⟨name, names, hname, hnames, fun y hy htop => ?_⟩
  have hlines : ∀ m ∈ rest, m.EndsAbove (.grid pageWidth) y := fun m hm =>
    ((endsAbove_of_drawIssuerLines hrest).2 m hm).mono (by linarith only [hy])
  have hseal : ∀ m ∈ sealMarks doc.issuer ⟨1, 667 / 5⟩, m.EndsAbove (.grid pageWidth) y := by
    unfold sealMarks
    split
    · simp
    · rw [List.forall_mem_singleton]
      change (667 / 5 : Rat) + 25 + 56 ≤ y
      linarith only [htop]
  rw [List.cons_append, List.forall_mem_cons, List.forall_mem_append,
    Mark.endsAbove_text_iff (canvas.textHeight_of_wrap hnames 0),
    show (667 / 5 : Rat) + pt 40 = 867 / 5 by norm_num]
  exact ⟨fun h => h.1, fun h => ⟨h, hseal, hlines⟩⟩

/-! ## The header above the table -/

/-- The lines of the two texts of the header for which no height is reckoned in, and those of the
client's company, below which the person stands. -/
structure HeaderLines (pageWidth : Rat) (doc : Document) (company person name : List String) :
    Prop where
  company : (Metrics.grid pageWidth).wrap (doc.clientCompany ++ "  御中") (some 250) .mincho 14 =
    .ok company
  person : (Metrics.grid pageWidth).wrap (doc.clientPerson ++ "  様") (some 250) .mincho 11 =
    .ok person
  name : ∃ s, doc.issuer.companyName = .str s ∧
    (Metrics.grid pageWidth).wrap s none .mincho 13 = .ok name

/-- The header blocks end above a place below their bottom exactly if the texts of the client's
person and the issuer's name do. -/
theorem HeaderRun.endsAbove_iff (date : doc.issuedOn.isInCalendar) {bs : List (Block Rat)}
    {start : Cursor Rat} {bottom : Rat}
    (run : HeaderRun (.grid pageWidth) .standard doc bs start bottom) :
    ∃ company person name, HeaderLines pageWidth doc company person name ∧
      personTop company.length + 90 ≤ bottom ∧
      ∀ y, bottom + 40 ≤ y → 280 ≤ y →
        ((∀ m ∈ drawing .standard bs, m.EndsAbove (.grid pageWidth) y) ↔
          personTop company.length + Metrics.linesHeight person.length 11 0 ≤ y ∧
            867 / 5 + Metrics.linesHeight name.length 13 0 ≤ y) := by
  obtain ⟨htitle, hdate, hclient, hissuer⟩ := run
  obtain ⟨rfl, title⟩ := exists_place_of_drawTitle htitle
  obtain ⟨rfl, date⟩ := exists_place_of_drawDate date hdate
  have hstart : Cursor.advance (⟨1, 567 / 5⟩ : Cursor Rat) (pt 20) = ⟨1, 667 / 5⟩ := by
    norm_num [Cursor.advance]
  rw [hstart] at hclient hissuer
  obtain ⟨company, person, hcompany, hperson, rfl, client⟩ := exists_of_drawClient hclient
  obtain ⟨s, name, hs, hname, issuer⟩ := exists_of_drawIssuer_grid hissuer
  rw [greater_rat]
  refine ⟨company, person, name, ⟨hcompany, hperson, s, hs, hname⟩, le_max_left .., ?_⟩
  intro y hy htop
  rw [max_add, max_le_iff] at hy
  simp only [drawing_cons, drawing_nil, List.append_nil, List.forall_mem_append, Block.marks,
    client y hy.1, issuer y hy.2 htop]
  exact ⟨fun h => h.2.2, fun h => ⟨fun m hm => (title m hm).mono htop,
    fun m hm => (date m hm).mono htop, h⟩⟩

/-- The blocks of the client and the issuer reach at most so far down that the person has room for
nine lines above the table, and the name for seven. -/
theorem endsAbove_of_lines {company person name : List String} {y : Rat}
    (hy : personTop company.length + 130 ≤ y) (hperson : person.length ≤ 9)
    (hname : name.length ≤ 7) :
    personTop company.length + Metrics.linesHeight person.length 11 0 ≤ y ∧
      867 / 5 + Metrics.linesHeight name.length 13 0 ≤ y := by
  have htop : (792 / 5 : Rat) ≤ personTop company.length := by
    rw [personTop]
    linarith only [le_max_left (25 : Rat) (Metrics.linesHeight company.length 14 0 + 8)]
  have hpersonLines : (person.length : Rat) ≤ 9 := by exact_mod_cast hperson
  have hnameLines : (name.length : Rat) ≤ 7 := by exact_mod_cast hname
  rw [Metrics.linesHeight_rat, Metrics.linesHeight_rat]
  constructor <;> linarith only [hy, htop, hpersonLines, hnameLines]

/-- In exact arithmetic, on a grid and with the usual measures, a document whose texts can be made
is drawn. If its table starts on the first page, the header blocks end above the table exactly if
the person's text and the issuer's name do, and they do if these take at most nine and seven lines.
-/
theorem header_placed_of_render (pageWidth : Rat) (doc : Document)
    (date : doc.issuedOn.isInCalendar) :
    (doc.IsPrintable → ∃ ms c, doc.render (.grid pageWidth) .standard = .ok (ms, c)) ∧
    ∀ ms c, doc.render (.grid pageWidth) .standard = .ok (ms, c) →
      ∃ header start bottom band top rest,
        DrawnAs (.grid pageWidth) .standard doc ms c (header ++ band ++ rest) ∧
        HeaderRun (.grid pageWidth) .standard doc header start bottom ∧
        TableStart .standard bottom start band top ∧
        ∀ y, band = [.band y] →
          ∃ company person name, HeaderLines pageWidth doc company person name ∧
            ((∀ m ∈ drawing .standard header, m.EndsAbove (.grid pageWidth) y) ↔
              personTop company.length + Metrics.linesHeight person.length 11 0 ≤ y ∧
                867 / 5 + Metrics.linesHeight name.length 13 0 ≤ y) ∧
            (person.length ≤ 9 → name.length ≤ 7 →
              ∀ m ∈ drawing .standard header, m.EndsAbove (.grid pageWidth) y) := by
  have roomy := LayoutParams.standard_isRoomy
  refine ⟨fun h => exists_render (.grid pageWidth) h roomy.fontSize_pos.ne'
    roomy.lineHeight_pos.ne', fun ms c h => ?_⟩
  obtain ⟨bs, rfl, run⟩ := exists_drawnAs h
  have drawn : DrawnAs (.grid pageWidth) .standard doc _ c bs := ⟨rfl, run⟩
  obtain ⟨headers, table, entries, ending⟩ := run
  rename_i header start bottom band top rows below closing
  refine ⟨header, start, bottom, band, top, rows ++ closing, ?_, headers, table, ?_⟩
  · rw [← List.append_assoc]
    exact drawn
  rintro y rfl
  obtain ⟨company, person, name, lines, hbottom, iff⟩ := headers.endsAbove_iff date
  have hy : y = max 280 (bottom + 40) := by
    cases table with
    | here => exact greater_rat ..
  have hiff := iff y (hy ▸ le_max_right ..) (hy ▸ le_max_left ..)
  refine ⟨company, person, name, lines, hiff, fun hperson hname => ?_⟩
  refine hiff.2 (endsAbove_of_lines ?_ hperson hname)
  linarith only [hbottom, hy, le_max_right 280 (bottom + 40)]

/-- The bottom of the header blocks, from those of the client and the issuer. -/
theorem HeaderRun.bottom_eq (date : doc.issuedOn.isInCalendar) {bs : List (Block Rat)}
    {start : Cursor Rat} {bottom clientBottom issuerBottom : Rat}
    (run : HeaderRun (.grid pageWidth) .standard doc bs start bottom)
    (hclient : (drawClient (.grid pageWidth) doc ⟨1, 667 / 5⟩).map (·.2) = .ok clientBottom)
    (hissuer : (drawIssuer (.grid pageWidth) .standard doc ⟨1, 667 / 5⟩).map (·.2) =
      .ok issuerBottom) :
    bottom = max clientBottom issuerBottom := by
  obtain ⟨htitle, hdate, client, issuer⟩ := run
  obtain ⟨rfl, -⟩ := exists_place_of_drawTitle htitle
  obtain ⟨rfl, -⟩ := exists_place_of_drawDate date hdate
  have hstart : Cursor.advance (⟨1, 567 / 5⟩ : Cursor Rat) (pt 20) = ⟨1, 667 / 5⟩ := by
    norm_num [Cursor.advance]
  rw [hstart] at client issuer
  rw [eq_of_map_snd client hclient, eq_of_map_snd issuer hissuer, greater_rat]

end

/-- The place of the table below a header as high as that of the specimen. -/
theorem TableStart.eq_band {start c : Cursor Rat} {band : List (Block Rat)}
    (table : TableStart .standard (1242 / 5) start band c) : band = [.band (1442 / 5)] := by
  cases table with
  | here => norm_num [LayoutParams.standard, LayoutParams.tableTop]
  | newPage tooLow => norm_num [LayoutParams.standard, LayoutParams.tableTop, Cursor.fits] at tooLow

/-- The header blocks of the specimen end above its table. -/
theorem header_placed_of_specimen :
    specimen.issuedOn.isInCalendar ∧ specimen.IsPrintable ∧
      ∃ ms c, specimen.render (.grid 595) .standard = .ok (ms, c) ∧
        ∃ header rest company person name,
          DrawnAs (.grid (595 : Rat)) .standard specimen ms c
            (header ++ [.band (1442 / 5)] ++ rest) ∧
          HeaderLines 595 specimen company person name ∧ person.length ≤ 9 ∧ name.length ≤ 7 ∧
          ∀ m ∈ drawing .standard header, m.EndsAbove (.grid 595) (1442 / 5) := by
  have date : specimen.issuedOn.isInCalendar := by decide +kernel
  obtain ⟨drawn, placed⟩ := header_placed_of_render 595 specimen date
  obtain ⟨ms, c, h⟩ := drawn specimen_isPrintable
  obtain ⟨header, start, bottom, band, top, rest, hdrawn, headers, table, above⟩ := placed ms c h
  obtain rfl : bottom = 1242 / 5 := by
    have hbottom : bottom = max (1242 / 5) (967 / 5) :=
      headers.bottom_eq date (by decide +kernel) (by decide +kernel)
    rw [hbottom]
    norm_num
  obtain rfl := table.eq_band
  obtain ⟨company, person, name, lines, -, hends⟩ := above _ rfl
  have hperson : person.length ≤ 9 := by
    have hwrap : ((Metrics.grid (595 : Rat)).wrap (specimen.clientPerson ++ "  様") (some 250)
        .mincho 11).map (·.length) = .ok 1 := by decide +kernel
    rw [lines.person] at hwrap
    exact (Except.ok.inj hwrap).le.trans (by omega)
  have hname : name.length ≤ 7 := by
    obtain ⟨s, hs, hwrap⟩ := lines.name
    obtain rfl : "見本工業" = s := Json.str.inj hs
    have hlines : ((Metrics.grid (595 : Rat)).wrap "見本工業" none .mincho 13).map (·.length) =
        .ok 1 := by decide +kernel
    rw [hwrap] at hlines
    exact (Except.ok.inj hlines).le.trans (by omega)
  exact ⟨date, specimen_isPrintable, ms, c, h, header, rest, company, person, name, hdrawn, lines,
    hperson, hname, hends hperson hname⟩

/-! ## A text that runs into the table -/

/-- The specimen for a person whose text takes ten lines. -/
def crowdedSpecimen : Document :=
  { specimen with clientPerson := String.ofList (List.replicate 200 '山') }

theorem isPrintable_specimen_with (person : String) :
    Document.IsPrintable { specimen with clientPerson := person } where
  amount := specimen_isPrintable.amount
  unitPrice := specimen_isPrintable.unitPrice
  subtotal := specimen_isPrintable.subtotal
  tax := specimen_isPrintable.tax
  grandTotal := specimen_isPrintable.grandTotal
  issuer := specimen_isPrintable.issuer
  taxLabel := specimen_isPrintable.taxLabel

theorem HeaderLines.length_crowdedSpecimen {company person name : List String}
    (lines : HeaderLines 595 crowdedSpecimen company person name) :
    company.length = 1 ∧ person.length = 10 := by
  constructor
  · have hwrap : ((Metrics.grid (595 : Rat)).wrap (crowdedSpecimen.clientCompany ++ "  御中")
        (some 250) .mincho 14).map (·.length) = .ok 1 := by decide +kernel
    rw [lines.company] at hwrap
    exact Except.ok.inj hwrap
  · obtain ⟨pieces, hpieces, rfl⟩ := exceptMap_eq_ok.1 lines.person
    have htext : (crowdedSpecimen.clientPerson ++ "  様").toList =
        List.replicate 200 '山' ++ [' ', ' ', '様'] := by
      rw [crowdedSpecimen, String.toList_append, String.toList_ofList]
      rfl
    have hlines : (gridWrap (List.replicate 200 '山' ++ [' ', ' ', '様']) (some (250 : Rat)) 11).map
        (·.length) = .ok 10 := by decide +kernel
    obtain ⟨_, hwrap, hlength⟩ := exceptMap_eq_ok.1 (htext ▸ hlines)
    obtain rfl := Except.ok.inj (hpieces.symm.trans hwrap)
    rwa [List.length_map]

/-- The table starts on the first page, above the end of the text of the client's person. -/
theorem exists_overlap_crowdedSpecimen :
    ∃ ms c header rest, crowdedSpecimen.render (.grid 595) .standard = .ok (ms, c) ∧
      DrawnAs (.grid (595 : Rat)) .standard crowdedSpecimen ms c
        (header ++ [.band (1442 / 5)] ++ rest) ∧
      (∀ b ∈ header, b.isHeader) ∧
      ∃ m ∈ drawing .standard header, ¬ m.EndsAbove (.grid 595) (1442 / 5) := by
  have roomy := LayoutParams.standard_isRoomy
  have date : crowdedSpecimen.issuedOn.isInCalendar := by decide +kernel
  obtain ⟨ms, c, h⟩ : ∃ ms c, crowdedSpecimen.render (.grid 595) .standard = .ok (ms, c) :=
    exists_render (.grid 595) (isPrintable_specimen_with _) roomy.fontSize_pos.ne'
      roomy.lineHeight_pos.ne'
  obtain ⟨bs, rfl, run⟩ := exists_drawnAs h
  have drawn : DrawnAs (.grid 595) .standard crowdedSpecimen _ c bs := ⟨rfl, run⟩
  obtain ⟨headers, table, entries, ending⟩ := run
  rename_i header start bottom band top rows below closing
  obtain rfl : bottom = 1242 / 5 := by
    have hbottom : bottom = max (1242 / 5) (967 / 5) :=
      headers.bottom_eq date (by decide +kernel) (by decide +kernel)
    rw [hbottom]
    norm_num
  obtain rfl := table.eq_band
  refine ⟨_, c, header, rows ++ closing, h, ?_, fun b hb => (headers.isInk b hb).1, ?_⟩
  · rw [← List.append_assoc]
    exact drawn
  obtain ⟨company, person, name, lines, -, iff⟩ := headers.endsAbove_iff date
  obtain ⟨hcompany, hperson⟩ := lines.length_crowdedSpecimen
  by_contra hall
  push Not at hall
  have hends := ((iff (1442 / 5) (by norm_num) (by norm_num)).1 hall).1
  rw [hcompany, hperson] at hends
  norm_num [personTop, Metrics.linesHeight_rat] at hends

end Layout

end Billing

import Billing.Proofs.Drawing.Unique
import Billing.Proofs.Headings
import Billing.Proofs.PrintedForms

/-!
# Documents with the same texts

The layout of a document follows from a few of its texts (`Document.SameTexts`): the names of its
entries, the client, the remarks and the issuer's particulars. Its kind, its date, its figures and
its seal move nothing.

* `DocumentRun.form_eq`: two documents with the same texts are drawn on one form, and end alike.
* `same_form_of_render`: so they are if they are rendered, and printed with any random numbers.
-/

namespace Billing

/-- Whether two issuers have the same particulars. Their seals may differ. -/
structure Issuer.SameTexts (i i' : Issuer) : Prop where
  companyName : i.companyName = i'.companyName
  representative : i.representative = i'.representative
  postalCode : i.postalCode = i'.postalCode
  address : i.address = i'.address
  phone : i.phone = i'.phone
  email : i.email = i'.email

/-- Whether two documents have the same texts. Their kinds, dates, figures and seals may differ. -/
structure Document.SameTexts (d d' : Document) : Prop where
  names : d.entries.map (·.name) = d'.entries.map (·.name)
  clientCompany : d.clientCompany = d'.clientCompany
  clientPerson : d.clientPerson = d'.clientPerson
  remarks : d.remarks = d'.remarks
  remarksAreDefault : d.remarksAreDefault = d'.remarksAreDefault
  issuer : d.issuer.SameTexts d'.issuer

namespace Layout

open Coordinate

variable {α : Type} [Coordinate α] {metrics : Metrics α} {p : LayoutParams α} {d d' : Document}

/-! ## The header -/

theorem form_eq_of_drawTitle (canvas : metrics.IsCanvas) {c c₁ c₁' : Cursor α}
    {ms ms' : List (Mark α)} (h : drawTitle metrics d c = .ok (ms, c₁))
    (h' : drawTitle metrics d' c = .ok (ms', c₁')) :
    HeaderPart.title.form ms = HeaderPart.title.form ms' ∧ c₁ = c₁' := by
  have hline (kind : DocumentKind) := canvas.textHeight_line kind.toList_title.2.1 .mincho
    (pt 22 : α) (pt 0)
  simp only [drawTitle, hline, bind_eq_ok, Except.ok.injEq, exists_eq_left', pure_eq_ok,
    Prod.mk.injEq] at h h'
  obtain ⟨rfl, rfl⟩ := h
  obtain ⟨rfl, rfl⟩ := h'
  exact ⟨rfl, rfl⟩

theorem form_eq_of_drawDate (canvas : metrics.IsCanvas) {c c₁ c₁' : Cursor α}
    {ms ms' : List (Mark α)} (h : drawDate metrics p d c = .ok (ms, c₁))
    (h' : drawDate metrics p d' c = .ok (ms', c₁')) :
    HeaderPart.date.form ms = HeaderPart.date.form ms' ∧ c₁ = c₁' := by
  have hline (date : Date) := canvas.textHeight_line date.newline_not_mem_text .gothic
    (pt 10 : α) (pt 0)
  simp only [drawDate, hline, bind_eq_ok, Except.ok.injEq, exists_eq_left', pure_eq_ok,
    Prod.mk.injEq] at h h'
  obtain ⟨rfl, rfl⟩ := h
  obtain ⟨rfl, rfl⟩ := h'
  exact ⟨rfl, rfl⟩

theorem form_eq_of_drawClient (texts : d.SameTexts d') {c : Cursor α} {bottom bottom' : α}
    {ms ms' : List (Mark α)} (h : drawClient metrics d c = .ok (ms, bottom))
    (h' : drawClient metrics d' c = .ok (ms', bottom')) :
    HeaderPart.client.form ms = HeaderPart.client.form ms' ∧ bottom = bottom' := by
  simp only [drawClient, ← texts.clientCompany, ← texts.clientPerson, bind_eq_ok, pure_eq_ok,
    Prod.mk.injEq] at h h'
  obtain ⟨height, hheight, _, -, rfl, rfl⟩ := h
  obtain ⟨_, hheight', _, -, rfl, rfl⟩ := h'
  obtain rfl := Except.ok.inj (hheight.symm.trans hheight')
  exact ⟨rfl, rfl⟩

theorem issuerParticulars_eq {i i' : Issuer} (texts : i.SameTexts i') :
    issuerParticulars i = issuerParticulars i' := by
  simp only [issuerParticulars, texts.representative, texts.postalCode, texts.address, texts.phone,
    texts.email]

theorem form_eq_of_drawIssuer (texts : d.issuer.SameTexts d'.issuer) {c : Cursor α}
    {bottom bottom' : α} {ms ms' : List (Mark α)} (h : drawIssuer metrics p d c = .ok (ms, bottom))
    (h' : drawIssuer metrics p d' c = .ok (ms', bottom')) :
    HeaderPart.issuer.form ms = HeaderPart.issuer.form ms' ∧ bottom = bottom' := by
  obtain ⟨name, lines, rest, hname, hlines, hrest, rfl⟩ := exists_of_drawIssuer h
  obtain ⟨name', lines', rest', hname', hlines', hrest', rfl⟩ := exists_of_drawIssuer h'
  obtain rfl := Json.str.inj ((hname.symm.trans texts.companyName).trans hname')
  rw [issuerLines, ← issuerParticulars_eq texts, ← issuerLines] at hlines'
  obtain rfl := Except.ok.inj (hlines.symm.trans hlines')
  obtain ⟨rfl, rfl⟩ := Prod.mk.inj (Except.ok.inj (hrest.symm.trans hrest'))
  have hseal := isSeal_of_drawIssuerLines hrest
  exact ⟨by rw [HeaderPart.form_issuer _ _ _ hseal, HeaderPart.form_issuer _ _ _ hseal], rfl⟩

theorem HeaderRun.form_eq (canvas : metrics.IsCanvas) (texts : d.SameTexts d')
    {bs bs' : List (Block α)} {start start' : Cursor α} {bottom bottom' : α}
    (run : HeaderRun metrics p d bs start bottom)
    (run' : HeaderRun metrics p d' bs' start' bottom') :
    forms p bs = forms p bs' ∧ start = start' ∧ bottom = bottom' := by
  obtain ⟨htitle, hdate, hclient, hissuer⟩ := run
  obtain ⟨htitle', hdate', hclient', hissuer'⟩ := run'
  obtain ⟨title, rfl⟩ := form_eq_of_drawTitle canvas htitle htitle'
  obtain ⟨date, rfl⟩ := form_eq_of_drawDate canvas hdate hdate'
  obtain ⟨client, rfl⟩ := form_eq_of_drawClient texts hclient hclient'
  obtain ⟨issuer, rfl⟩ := form_eq_of_drawIssuer texts.issuer hissuer hissuer'
  simp [Block.form, title, date, client, issuer]

/-! ## The table -/

omit [Coordinate α] in
theorem isSome_of_figuresOn {x : Entry} {isFirst : Bool} {figures : Option Figures}
    (h : figuresOn x isFirst = .ok figures) : figures.isSome = isFirst := by
  cases isFirst with
  | false =>
    obtain rfl : none = figures := Except.ok.inj h
    rfl
  | true =>
    obtain ⟨_, -, rfl⟩ := exceptMap_eq_ok.1 h
    rfl

theorem form_nextSegment {x x' : Entry} (hname : x.name = x'.name) {lineHeight : α}
    {lines : List String} {y : α} {isFirst : Bool} {count : Int} {figures figures' : Option Figures}
    (hfigures : figures.isSome = figures'.isSome) :
    Block.form p (.segment (nextSegment p x lineHeight lines y isFirst count figures)) =
      Block.form p (.segment (nextSegment p x' lineHeight lines y isFirst count figures')) := by
  simp only [Block.form, Segment.form, Segment.marks, Segment.bottom, nextSegment, hname]
  rw [hfigures]
  rfl

/-- The figures of an entry do not tell where its rows break. -/
theorem RowRun.form_eq {x x' : Entry} (hname : x.name = x'.name) {lineHeight : α}
    {lines : List String} {c c₁ c₁' : Cursor α} {fresh isFirst : Bool} {bs bs' : List (Block α)}
    (run : RowRun p x lineHeight lines c fresh isFirst bs c₁)
    (run' : RowRun p x' lineHeight lines c fresh isFirst bs' c₁') :
    forms p bs = forms p bs' ∧ c₁ = c₁' := by
  -- the lines that are left and the place tell which step is next, so both runs take the same one
  induction run generalizing bs' c₁' with
  | done =>
    cases run' with
    | done => exact ⟨rfl, rfl⟩
    | newPage left => exact absurd rfl left
    | segment left => exact absurd rfl left
  | newPage left tooHigh _ ih =>
    cases run' with
    | done => exact absurd rfl left
    | newPage _ _ rest' =>
      obtain ⟨hrest, rfl⟩ := ih rest'
      exact ⟨by simp [hrest], rfl⟩
    | segment _ fits => simp [tooHigh] at fits
  | segment left fits room shown _ ih =>
    cases run' with
    | done => exact absurd rfl left
    | newPage _ tooHigh => simp [tooHigh] at fits
    | segment _ _ room' shown' rest' =>
      obtain rfl := Except.ok.inj (room.symm.trans room')
      obtain ⟨hrest, rfl⟩ := ih rest'
      have hfigures := (isSome_of_figuresOn shown).trans (isSome_of_figuresOn shown').symm
      exact ⟨by rw [forms_cons, forms_cons, form_nextSegment hname hfigures, hrest], rfl⟩

theorem TableRun.form_eq {xs xs' : List Entry} (hnames : xs.map (·.name) = xs'.map (·.name))
    {c c₁ c₁' : Cursor α} {fresh : Bool} {bs bs' : List (Block α)}
    (run : TableRun metrics p xs c fresh bs c₁) (run' : TableRun metrics p xs' c fresh bs' c₁') :
    forms p bs = forms p bs' ∧ c₁ = c₁' := by
  induction run generalizing xs' bs' c₁' with
  | done =>
    obtain rfl : xs' = [] := by simpa using hnames.symm
    cases run'
    exact ⟨rfl, rfl⟩
  | row wrapped measured row _ ih =>
    cases run' with
    | done => cases hnames
    | row wrapped' measured' row' rest' =>
      rename_i x' _ _ _ _ _ _
      obtain ⟨hname : _ = x'.name, hnames⟩ := List.cons.inj hnames
      rw [← hname] at wrapped'
      obtain rfl := Except.ok.inj (wrapped.symm.trans wrapped')
      obtain rfl := Except.ok.inj (measured.symm.trans measured')
      obtain ⟨hrow, rfl⟩ := row.form_eq hname row'
      obtain ⟨hrest, rfl⟩ := ih hnames rest'
      exact ⟨by rw [forms_append, forms_append, hrow, hrest], rfl⟩

/-! ## The closing -/

theorem Totals.form_eq {t t' : Totals α} (hplace : t.y = t'.y) : t.form p = t'.form p := by
  simp only [form, marks, summaryRow, totalRow, hplace]
  rfl

theorem ClosingRun.form_eq (hremarks : d.remarks = d'.remarks)
    (hdefault : d.remarksAreDefault = d'.remarksAreDefault) {c c₁ c₁' : Cursor α}
    {bs bs' : List (Block α)} (run : ClosingRun metrics p d c bs c₁)
    (run' : ClosingRun metrics p d' c bs' c₁') :
    forms p bs = forms p bs' ∧ c₁ = c₁' := by
  obtain ⟨start, -, place, wrapped, measured, boxes⟩ := run
  obtain ⟨start', -, place', wrapped', measured', boxes'⟩ := run'
  have hstyle : (remarksStyle d' : TextStyle α) = remarksStyle d := by
    simp only [remarksStyle, hdefault]
  rw [hstyle] at wrapped' measured' boxes'
  rw [← hremarks] at wrapped' boxes'
  obtain ⟨rfl, rfl⟩ := start.unique start'
  obtain rfl := Except.ok.inj (wrapped.symm.trans wrapped')
  obtain rfl := Except.ok.inj (measured.symm.trans measured')
  obtain ⟨rfl, rfl⟩ := boxes.unique boxes'
  have htotals := Totals.form_eq (p := p) (place.trans place'.symm)
  exact ⟨by simp [Block.form, htotals], rfl⟩

/-- Documents with the same texts are drawn on one form, and end at one place. -/
theorem DocumentRun.form_eq (canvas : metrics.IsCanvas) (texts : d.SameTexts d')
    {bs bs' : List (Block α)} {c c' : Cursor α} (run : DocumentRun metrics p d bs c)
    (run' : DocumentRun metrics p d' bs' c') :
    forms p bs = forms p bs' ∧ c = c' := by
  obtain ⟨headers, table, entries, ending⟩ := run
  obtain ⟨headers', table', entries', ending'⟩ := run'
  obtain ⟨hheader, rfl, rfl⟩ := headers.form_eq canvas texts headers'
  obtain ⟨rfl, rfl⟩ := table.unique table'
  obtain ⟨hrows, rfl⟩ := entries.form_eq texts.names entries'
  obtain ⟨hclosing, rfl⟩ := ending.form_eq texts.remarks texts.remarksAreDefault ending'
  exact ⟨by simp [hheader, hrows, hclosing], rfl⟩

/-! ## Rendered documents -/

/-- Two drawings that differ only in what their form leaves open, also when they are printed on
canvases that draw other random numbers. -/
structure Alike (form : List (Slot α)) (ms ms' : List (Mark α)) : Prop where
  frame : ms.filter (·.isFrame) = ms'.filter (·.isFrame)
  fills : Fills form ms
  fills' : Fills form ms'
  printedOn (k : Canvas α) (random : Nat → α) :
    PrintedOn k form (Canvas.drawAll { k with random } ms)
  printedOn' (k : Canvas α) (random : Nat → α) :
    PrintedOn k form (Canvas.drawAll { k with random } ms')

/-- Documents with the same texts that are rendered end at one place, and are drawn and printed on
one form. -/
theorem same_form_of_render (canvas : metrics.IsCanvas) (texts : d.SameTexts d')
    {ms ms' : List (Mark α)} {c c' : Cursor α} (h : d.render metrics p = .ok (ms, c))
    (h' : d'.render metrics p = .ok (ms', c')) :
    c = c' ∧ ∃ bs bs', (ms = drawing p bs ∧ DocumentRun metrics p d bs c) ∧
      (ms' = drawing p bs' ∧ DocumentRun metrics p d' bs' c') ∧ forms p bs = forms p bs' ∧
      Alike (forms p bs).flatten ms ms' := by
  have hcoloured := isColoured_of_render h
  have hcoloured' := isColoured_of_render h'
  obtain ⟨bs, rfl, run⟩ := exists_drawnAs h
  obtain ⟨bs', rfl, run'⟩ := exists_drawnAs h'
  obtain ⟨hforms, rfl⟩ := run.form_eq canvas texts run'
  have hfills := run.fills
  have hfills' : Fills (forms p bs).flatten (drawing p bs') := hforms ▸ run'.fills
  refine ⟨rfl, bs, bs', ⟨rfl, run⟩, ⟨rfl, run'⟩, hforms, ?_⟩
  exact {
    frame := hfills.filter_isFrame.trans hfills'.filter_isFrame.symm
    fills := hfills
    fills' := hfills'
    printedOn := fun k _ => hfills.printedOn (hcoloured k.palette) rfl rfl rfl
    printedOn' := fun k _ => hfills'.printedOn (hcoloured' k.palette) rfl rfl rfl }

end Layout

/-! ## A specimen -/

/-- The specimen as a receipt of another day, with other figures and a seal. -/
def sealedSpecimen : Document where
  __ := specimen
  kind := .receipt
  issuedOn := ⟨2025, 12, 24⟩
  entries :=
    [{ name := "設計", quantityText := "10", quantity := .ofInt 10, unit := "%", unitPrice := 0,
       category := .percentageSurcharge, amount := -500 },
      { name := "法定福利費", quantityText := "1200", quantity := .ofInt 1200, unit := "枚",
        unitPrice := 75, amount := 90000 }]
  subtotal := 89500
  tax := 7160
  grandTotal := 96660
  taxRate := .finite false 8 (-2)
  issuer := { specimenIssuer with sealColumns := ["見本", "之印"] }

theorem sealedSpecimen_isPrintable : sealedSpecimen.IsPrintable where
  amount := by decide +kernel
  unitPrice := by decide +kernel
  subtotal := by decide +kernel
  tax := by decide +kernel
  grandTotal := by decide +kernel
  issuer := ⟨⟨"見本工業", rfl⟩, [], by decide +kernel⟩
  taxLabel := ⟨"消費税 (8%)", by decide +kernel⟩

theorem specimen_sameTexts : specimen.SameTexts sealedSpecimen :=
  ⟨rfl, rfl, rfl, rfl, rfl, ⟨rfl, rfl, rfl, rfl, rfl, rfl⟩⟩

/-- The two specimens are drawn on one form. -/
theorem Layout.same_form_of_sealedSpecimen :
    ∃ (ms ms' : List (Mark Rat)) (c : Cursor Rat) (bs : List (Block Rat)),
      specimen.render (.print 595) .standard = .ok (ms, c) ∧
        sealedSpecimen.render (.print 595) .standard = .ok (ms', c) ∧ ms = drawing .standard bs ∧
        Alike (forms .standard bs).flatten ms ms' := by
  obtain ⟨ms, c, h⟩ := exists_render_specimen (.print 595)
  obtain ⟨ms', c', h'⟩ := exists_render (.print 595) sealedSpecimen_isPrintable
    LayoutParams.standard_isRoomy.fontSize_pos.ne' LayoutParams.standard_isRoomy.lineHeight_pos.ne'
  obtain ⟨rfl, bs, -, ⟨hbs, -⟩, -, -, alike⟩ :=
    same_form_of_render (.print 595) specimen_sameTexts h h'
  exact ⟨ms, ms', c, bs, h, h', hbs, alike⟩

end Billing

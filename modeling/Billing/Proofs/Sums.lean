import Billing.Document.Summary
import Billing.Proofs.Drawing.Pages
import Billing.Proofs.Drawing.Success
import Billing.Proofs.Entries
import Billing.Proofs.Number.Percentage
import Billing.Proofs.Rows
import Mathlib.Algebra.BigOperators.Ring.Finset
import Mathlib.Data.List.DropRight

/-!
# The sums on a document

Who adds up the figures on a printed document finds the figures printed below them. What a document
is priced at adds up (`Document.IsBalanced`), and so does what is read off its pages and the message
about it (`Reading`).

* `issue_isBalanced`: priced items make a balanced document.
* `adds_up_of_price`: what is drawn for priced items adds up.
-/

namespace Billing

/-! ## Priced items -/

/-- A document with totals that are those of its entries, its tax rounded down. -/
structure Document.IsBalanced (doc : Document) : Prop where
  subtotal : doc.subtotal = total doc.entries
  tax : doc.tax = ⌊doc.subtotal * doc.taxRate.toRat⌋
  grandTotal : doc.grandTotal = doc.subtotal + doc.tax

theorem tax_eq {rate : Decimal} {subtotal n : Int} (moderate : rate.IsModerate)
    (short : rate.IsShortProduct subtotal) (h : tax rate subtotal = .ok n) :
    n = ⌊subtotal * rate.toRat⌋ := by
  obtain ⟨product, hproduct, hfloor⟩ := bind_eq_ok.1 h
  rw [Decimal.floor_eq hfloor, Decimal.toRat_of_mul moderate short hproduct]

theorem Draft.priced_of_check {kind : DocumentKind} {company person remarks : String}
    {priced : Priced} {issuedOn : Date} {draft : Draft}
    (h : Draft.check kind company person priced remarks issuedOn = .ok draft) :
    draft.priced = priced := by
  simp only [Draft.check] at h
  split at h
  · cases h
  · split at h
    · cases h
    · split at h
      · cases h
      · obtain rfl := Except.ok.inj h
        rfl

theorem Draft.issue_isBalanced {rates : Rates} {items : List Item} {draft : Draft}
    (hprice : price rates items = .ok draft.priced) (moderate : rates.tax.IsModerate)
    (short : rates.tax.IsShortProduct draft.priced.subtotal) (notes : Notes) (issuer : Issuer) :
    (draft.issue notes issuer).IsBalanced := by
  obtain ⟨hsubtotal, htax, htotal, hrate⟩ := exists_of_price hprice
  refine ⟨hsubtotal, ?_, htotal⟩
  simp only [issue, hrate]
  exact tax_eq moderate short htax

/-! ## What is read -/

/-- The numbers that are read off a document and the message about it. -/
structure Reading where
  /-- The amounts of the row segments on all pages. -/
  amounts : List Rat
  subtotal : Rat
  percent : Rat
  tax : Rat
  total : Rat
  /-- The highlighted total at the top of the first page. -/
  callout : Rat
  /-- The total in the message. -/
  announced : Rat

/-- The numbers add up: amounts to the subtotal, and subtotal and tax to the total, which is the
same in all places. -/
structure Reading.AddsUp (r : Reading) : Prop where
  subtotal : r.amounts.sum = r.subtotal
  tax : ⌊r.subtotal * r.percent / 100⌋ = r.tax
  total : r.subtotal + r.tax = r.total
  callout : r.callout = r.total
  announced : r.announced = r.total

/-- The last line of a text. -/
def lastLine (s : String) : String := String.ofList (s.toList.rtakeWhile (· != '\n'))

namespace Layout

variable {α : Type} [Coordinate α]

/-- The style of the highlighted total. -/
def calloutStyle : TextStyle α := { typeface := .mincho, size := pt 18, lineGap := pt 0 }

/-- The numbers are those that are read off the blocks of a document and its message. -/
structure IsReading (metrics : Metrics α) (p : LayoutParams α) (doc : Document)
    (bs : List (Block α)) (message : String) (r : Reading) : Prop where
  amounts : ((segments bs).filterMap (·.figures)).map (readFigure? ·.amount) = r.amounts.map some
  summary : ∃ t, summaries bs = [t] ∧ readFigure? t.subtotal = some r.subtotal ∧
    readFigure? t.taxLabel = some r.percent ∧ readFigure? t.tax = some r.tax ∧
    readFigure? t.total = some r.total
  callout : ∃ header others rest start bottom marks s y,
    HeaderRun metrics p doc header start bottom ∧ pages bs = (header ++ others) :: rest ∧
    .header .client marks ∈ header ∧ marks[5]? = some (.text s (pt 130) y calloutStyle) ∧
    readFigure? s = some r.callout
  announced : readFigure? (lastLine message) = some r.announced

/-! ## Reading a document -/

omit [Coordinate α] in
theorem IsRow.filterMap_figures {metrics : Metrics α} {p : LayoutParams α} {x : Entry}
    {row : List (Segment α)} (h : IsRow metrics p x row) :
    ∃ f, row.filterMap (·.figures) = [f] ∧ x.Shows f := by
  obtain ⟨first, rest, f, rfl, hfirst, shows, hrest⟩ := h.figures
  refine ⟨f, ?_, shows⟩
  rw [List.filterMap_cons_some hfirst, List.filterMap_eq_nil_iff.2 hrest]

omit [Coordinate α] in
/-- The amounts that are read off the rows are those of the entries. -/
theorem map_readFigure?_of_rows {metrics : Metrics α} {p : LayoutParams α} {xs : List Entry}
    {rows : List (List (Segment α))} (h : List.Forall₂ (IsRow metrics p) xs rows) :
    (rows.flatten.filterMap (·.figures)).map (readFigure? ·.amount) =
      (xs.map fun x => (x.amount : Rat)).map some := by
  induction h with
  | nil => rfl
  | cons hrow _ ih =>
    obtain ⟨f, hf, shows⟩ := hrow.filterMap_figures
    simp only [List.flatten_cons, List.filterMap_append, hf, List.singleton_append, List.map_cons,
      readFigure?_of_yen shows.amount, ih]

theorem exists_callout {metrics : Metrics α} {doc : Document} {c : Cursor α} {bottom : α}
    {ms : List (Mark α)} (h : drawClient metrics doc c = .ok (ms, bottom)) :
    ∃ total s y, Number.groupedText doc.grandTotal = .ok total ∧
      ms[5]? = some (.text s (pt 130) y calloutStyle) ∧
      readFigure? s = some (doc.grandTotal : Rat) := by
  simp only [drawClient, bind_eq_ok, pure_eq_ok, Prod.mk.injEq] at h
  obtain ⟨_, -, total, htotal, rfl, -⟩ := h
  refine ⟨total, _, _, htotal, rfl, ?_⟩
  rw [readFigure?_append_right (by cbv), readFigure?_append_left (by cbv),
    readFigure?_of_groupedText htotal]

theorem lastLine_append (s : String) {t : String} (h : '\n' ∉ t.toList) :
    lastLine (s ++ "\n" ++ t) = t := by
  have hall : ∀ c ∈ t.toList.reverse, (c != '\n') = true := fun c hc => by
    rw [bne_iff_ne]
    rintro rfl
    exact h (List.mem_reverse.1 hc)
  have hreverse : (s ++ "\n" ++ t).toList.reverse =
      t.toList.reverse ++ '\n' :: s.toList.reverse := by simp
  rw [lastLine, List.rtakeWhile, hreverse, List.takeWhile_append_of_pos hall]
  simp

theorem exists_notification {doc : Document} {total : String}
    (h : Number.groupedText doc.grandTotal = .ok total) (company person : String) :
    ∃ message, doc.summary.notification company person = .ok message ∧
      readFigure? (lastLine message) = some (doc.grandTotal : Rat) := by
  have hline : '\n' ∉ ("• 合計金額: ¥" ++ total ++ "（税込）").toList := by
    simp [newline_not_mem_of_groupedText h]
  have hread : readFigure? ("• 合計金額: ¥" ++ total ++ "（税込）") = some (doc.grandTotal : Rat) := by
    rw [readFigure?_append_right (by cbv), readFigure?_append_left (by cbv),
      readFigure?_of_groupedText h]
  refine ⟨_, bind_eq_ok.2 ⟨total, h, rfl⟩, ?_⟩
  rw [← hread, ← lastLine_append ("📄 *" ++ doc.summary.kind.displayName ++ "を作成しました*\n\n" ++
    "• 宛先: " ++ company ++ " / " ++ person ++ " 様\n" ++
    "• 品目数: " ++ toString doc.summary.itemCount ++ "件") hline]
  simp only [String.append_assoc]
  rfl

/-- The numbers that are read off a document. -/
def readingOf (doc : Document) : Reading where
  amounts := doc.entries.map fun x => (x.amount : Rat)
  subtotal := doc.subtotal
  percent := doc.taxRate.toRat * 100
  tax := doc.tax
  total := doc.grandTotal
  callout := doc.grandTotal
  announced := doc.grandTotal

theorem readingOf_addsUp {doc : Document} (balanced : doc.IsBalanced) : (readingOf doc).AddsUp where
  subtotal := by
    simp only [readingOf, balanced.subtotal, total, ← List.sum_eq_foldl, Int.cast_list_sum,
      List.map_map]
    rfl
  tax := by
    have : (doc.subtotal : Rat) * (doc.taxRate.toRat * 100) / 100 =
        doc.subtotal * doc.taxRate.toRat := by ring
    simp only [readingOf, this, balanced.tax]
  total := by
    simp only [readingOf, balanced.grandTotal]
    push_cast
    rfl
  callout := rfl
  announced := rfl

theorem exists_reading_of_render {metrics : Metrics α} (canvas : metrics.IsCanvas)
    {p : LayoutParams α} {doc : Document} (moderate : doc.taxRate.IsModerate)
    {ms : List (Mark α)} {c : Cursor α} (h : doc.render metrics p = .ok (ms, c))
    (company person : String) :
    ∃ bs message, DrawnAs metrics p doc ms c bs ∧
      doc.summary.notification company person = .ok message ∧
      IsReading metrics p doc bs message (readingOf doc) := by
  obtain ⟨bs, rfl, run⟩ := exists_drawnAs h
  obtain ⟨rows, hrows, hall⟩ := run.exists_rows canvas
  obtain ⟨t, hsummaries, shown⟩ := run.exists_totals
  obtain ⟨label, hlabel, hpercent⟩ := exists_taxLabel moderate.hasPercentage
  obtain rfl : label = t.taxLabel := Except.ok.inj (hlabel.symm.trans shown.taxLabel)
  obtain ⟨header, others, rest, start, bottom, headers, hpages, -⟩ := run.exists_headers
  have hheaders := headers
  obtain ⟨htitle, hdate, hclient, hissuer⟩ := hheaders
  obtain ⟨total, s, y, htotal, hcallout, hread⟩ := exists_callout hclient
  obtain ⟨message, hmessage, hannounced⟩ := exists_notification htotal company person
  refine ⟨bs, message, ⟨rfl, run⟩, hmessage, ⟨?_, ?_, ?_, hannounced⟩⟩
  · rw [hrows, map_readFigure?_of_rows hall]
    rfl
  · exact ⟨t, hsummaries, readFigure?_of_yen shown.subtotal, hpercent, readFigure?_of_yen shown.tax,
      readFigure?_of_yen shown.total⟩
  · exact ⟨_, others, rest, _, _, _, s, y, headers, hpages, by simp, hcallout, hread⟩

end Layout

open Layout in
/-- What is drawn for priced items adds up. In exact arithmetic it is drawn if every integer can be
written, the issuer block can be drawn and the lines of names have a height. -/
theorem adds_up_of_price {rates : Rates} {items : List Item} {priced : Priced}
    (hprice : price rates items = .ok priced) (moderate : rates.tax.IsModerate)
    (short : rates.tax.IsShortProduct priced.subtotal) {kind : DocumentKind}
    {company person remarks : String} {issuedOn : Date} {draft : Draft}
    (checked : Draft.check kind company person priced remarks issuedOn = .ok draft)
    (notes : Notes) (issuer : Issuer) :
    ((draft.issue notes issuer).IsWritable → issuer.IsPrintable →
      ∀ (metrics : Metrics Rat) (p : LayoutParams Rat), metrics.IsCanvas → p.fontSize ≠ 0 →
        0 < p.lineHeight → ∃ ms c, (draft.issue notes issuer).render metrics p = .ok (ms, c)) ∧
    ∀ {α : Type} [Coordinate α] {metrics : Metrics α} {p : LayoutParams α} {ms : List (Mark α)}
      {c : Cursor α}, metrics.IsCanvas → (draft.issue notes issuer).render metrics p = .ok (ms, c) →
      ∀ recipient contact : String, ∃ bs message r,
        DrawnAs metrics p (draft.issue notes issuer) ms c bs ∧
        (draft.issue notes issuer).summary.notification recipient contact = .ok message ∧
        IsReading metrics p (draft.issue notes issuer) bs message r ∧ r.AddsUp := by
  obtain rfl := Draft.priced_of_check checked
  have balanced := Draft.issue_isBalanced hprice moderate short notes issuer
  have hrate : (draft.issue notes issuer).taxRate = rates.tax := (exists_of_price hprice).2.2.2
  rw [← hrate] at moderate
  constructor
  · intro writable printable metrics p canvas hfont hheight
    obtain ⟨label, hlabel, -⟩ := exists_taxLabel moderate.hasPercentage
    exact exists_render canvas ⟨writable, printable, label, hlabel⟩ hfont hheight.ne'
  · intro α _ metrics p ms c canvas h recipient contact
    obtain ⟨bs, message, drawn, hmessage, reading⟩ :=
      exists_reading_of_render canvas moderate h recipient contact
    exact ⟨bs, message, _, drawn, hmessage, reading, readingOf_addsUp balanced⟩

open Layout in
theorem adds_up_of_specimen :
    price {} specimenItems = .ok specimenPriced ∧ ({} : Rates).tax.IsModerate ∧
      ({} : Rates).tax.IsShortProduct specimenPriced.subtotal ∧
      Draft.check .estimate "株式会社見本" "佐藤" specimenPriced "" ⟨2025, 4, 1⟩ = .ok specimenDraft ∧
      ∃ ms c bs message r, specimen.render (.grid 595) .standard = .ok (ms, c) ∧
        DrawnAs (.grid (595 : Rat)) .standard specimen ms c bs ∧
        specimen.summary.notification "株式会社見本" "佐藤" = .ok message ∧
        IsReading (.grid 595) .standard specimen bs message r ∧ r.AddsUp := by
  have moderate : ({} : Rates).tax.IsModerate :=
    ⟨false, 1, 0, -1, rfl, by decide, by decide, by decide⟩
  have short : ({} : Rates).tax.IsShortProduct specimenPriced.subtotal :=
    ⟨34950, 0, rfl, by decide⟩
  have checked : Draft.check .estimate "株式会社見本" "佐藤" specimenPriced "" ⟨2025, 4, 1⟩ =
      .ok specimenDraft := by
    have hcompany : Text.strip "株式会社見本" = "株式会社見本" := by decide +kernel
    have hperson : Text.strip "佐藤" = "佐藤" := by decide +kernel
    have hremarks : Text.strip "" = "" := by decide +kernel
    simp [Draft.check, hcompany, hperson, hremarks, specimenDraft, specimenPriced]
  have adds_up := adds_up_of_price specimen_priced moderate short checked {} specimenIssuer
  obtain ⟨ms, c, h⟩ := adds_up.1 specimen_isPrintable.toIsWritable specimen_isPrintable.issuer
    (.grid 595) .standard (.grid 595)
    LayoutParams.standard_isRoomy.fontSize_pos.ne' LayoutParams.standard_isRoomy.lineHeight_pos
  obtain ⟨bs, message, r, reading⟩ := adds_up.2 (.grid 595) h "株式会社見本" "佐藤"
  exact ⟨specimen_priced, moderate, short, checked, ms, c, bs, message, r, h, reading⟩

end Billing

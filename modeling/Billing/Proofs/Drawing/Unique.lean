import Billing.Proofs.Drawing.Document

/-!
# What decides a drawing

At every step of a drawing, the document, the measures and the place leave one way to go on, so that
a document is drawn for one list of blocks only. What holds of the blocks that a document is drawn
for therefore holds of all that it is drawn for.

* `RowRun.unique`, `BoxRun.unique`: the loops over the lines of a name and of the remarks.
* `DocumentRun.unique`: two runs of a document lay down the same blocks and end at one place.
* `existsUnique_drawnAs`: what was rendered of a document is drawn for exactly one list of blocks.
-/

namespace Billing.Layout

open Coordinate

variable {α : Type} [Coordinate α] {metrics : Metrics α} {p : LayoutParams α} {doc : Document}

/-! ## The header -/

theorem HeaderRun.unique {bs bs' : List (Block α)} {start start' : Cursor α} {bottom bottom' : α}
    (run : HeaderRun metrics p doc bs start bottom)
    (run' : HeaderRun metrics p doc bs' start' bottom') :
    bs = bs' ∧ start = start' ∧ bottom = bottom' := by
  obtain ⟨htitle, hdate, hclient, hissuer⟩ := run
  obtain ⟨htitle', hdate', hclient', hissuer'⟩ := run'
  obtain ⟨rfl, rfl⟩ := Prod.mk.inj (Except.ok.inj (htitle.symm.trans htitle'))
  obtain ⟨rfl, rfl⟩ := Prod.mk.inj (Except.ok.inj (hdate.symm.trans hdate'))
  obtain ⟨rfl, rfl⟩ := Prod.mk.inj (Except.ok.inj (hclient.symm.trans hclient'))
  obtain ⟨rfl, rfl⟩ := Prod.mk.inj (Except.ok.inj (hissuer.symm.trans hissuer'))
  exact ⟨rfl, rfl, rfl⟩

/-! ## The table -/

theorem TableStart.unique {bottom : α} {c c₁ c₁' : Cursor α} {bs bs' : List (Block α)}
    (start : TableStart p bottom c bs c₁) (start' : TableStart p bottom c bs' c₁') :
    bs = bs' ∧ c₁ = c₁' := by
  cases start with
  | here high fits =>
    cases start' with
    | here => exact ⟨rfl, rfl⟩
    | newPage tooLow => simp [high, fits] at tooLow
  | newPage tooLow =>
    cases start' with
    | here high fits => simp [high, fits] at tooLow
    | newPage => exact ⟨rfl, rfl⟩

theorem RowRun.unique {x : Entry} {lineHeight : α} {lines : List String} {c c₁ c₁' : Cursor α}
    {fresh isFirst : Bool} {bs bs' : List (Block α)}
    (run : RowRun p x lineHeight lines c fresh isFirst bs c₁)
    (run' : RowRun p x lineHeight lines c fresh isFirst bs' c₁') : bs = bs' ∧ c₁ = c₁' := by
  -- the lines that are left and the place tell which step is next
  induction run generalizing bs' c₁' with
  | done =>
    cases run' with
    | done => exact ⟨rfl, rfl⟩
    | newPage left => exact absurd rfl left
    | segment left => exact absurd rfl left
  | newPage left tooHigh _ ih =>
    cases run' with
    | done => exact absurd rfl left
    | newPage _ _ rest' =>
      obtain ⟨rfl, rfl⟩ := ih rest'
      exact ⟨rfl, rfl⟩
    | segment _ fits => simp [tooHigh] at fits
  | segment left fits room shown _ ih =>
    cases run' with
    | done => exact absurd rfl left
    | newPage _ tooHigh => simp [tooHigh] at fits
    | segment _ _ room' shown' rest' =>
      obtain rfl := Except.ok.inj (room.symm.trans room')
      obtain rfl := Except.ok.inj (shown.symm.trans shown')
      obtain ⟨rfl, rfl⟩ := ih rest'
      exact ⟨rfl, rfl⟩

theorem TableRun.unique {xs : List Entry} {c c₁ c₁' : Cursor α} {fresh : Bool}
    {bs bs' : List (Block α)} (run : TableRun metrics p xs c fresh bs c₁)
    (run' : TableRun metrics p xs c fresh bs' c₁') : bs = bs' ∧ c₁ = c₁' := by
  induction run generalizing bs' c₁' with
  | done =>
    cases run'
    exact ⟨rfl, rfl⟩
  | row wrapped measured row _ ih =>
    cases run' with
    | row wrapped' measured' row' rest' =>
      obtain rfl := Except.ok.inj (wrapped.symm.trans wrapped')
      obtain rfl := Except.ok.inj (measured.symm.trans measured')
      obtain ⟨rfl, rfl⟩ := row.unique row'
      obtain ⟨rfl, rfl⟩ := ih rest'
      exact ⟨rfl, rfl⟩

/-! ## The closing -/

theorem BoxStart.unique {lineHeight : α} {c c₁ c₁' : Cursor α} {bs bs' : List (Block α)}
    (start : BoxStart p lineHeight c bs c₁) (start' : BoxStart p lineHeight c bs' c₁') :
    bs = bs' ∧ c₁ = c₁' := by
  cases start with
  | here room fits =>
    cases start' with
    | here => exact ⟨rfl, rfl⟩
    | newPage room' full lower =>
      obtain rfl := Except.ok.inj (room.symm.trans room')
      exact absurd ⟨full, lower⟩ fits
  | newPage room full lower =>
    cases start' with
    | here room' fits =>
      obtain rfl := Except.ok.inj (room.symm.trans room')
      exact absurd ⟨full, lower⟩ fits
    | newPage => exact ⟨rfl, rfl⟩

theorem BoxRun.unique {style : TextStyle α} {whole : String} {lineHeight : α}
    {lines : List String} {c c₁ c₁' : Cursor α} {isFirst : Bool} {bs bs' : List (Block α)}
    (run : BoxRun p style whole lineHeight lines c isFirst bs c₁)
    (run' : BoxRun p style whole lineHeight lines c isFirst bs' c₁') : bs = bs' ∧ c₁ = c₁' := by
  induction run generalizing bs' c₁' with
  | done =>
    cases run' with
    | done => exact ⟨rfl, rfl⟩
    | last left => exact absurd rfl left
    | more left => exact absurd rfl left
  | last left start room all =>
    cases run' with
    | done => exact absurd rfl left
    | last _ start' room' =>
      obtain ⟨rfl, rfl⟩ := start.unique start'
      obtain rfl := Except.ok.inj (room.symm.trans room')
      exact ⟨rfl, rfl⟩
    | more _ start' room' nonempty =>
      obtain ⟨rfl, rfl⟩ := start.unique start'
      obtain rfl := Except.ok.inj (room.symm.trans room')
      exact absurd all nonempty
  | more left start room nonempty _ ih =>
    cases run' with
    | done => exact absurd rfl left
    | last _ start' room' all =>
      obtain ⟨rfl, rfl⟩ := start.unique start'
      obtain rfl := Except.ok.inj (room.symm.trans room')
      exact absurd all nonempty
    | more _ start' room' _ rest' =>
      obtain ⟨rfl, rfl⟩ := start.unique start'
      obtain rfl := Except.ok.inj (room.symm.trans room')
      obtain ⟨rfl, rfl⟩ := ih rest'
      exact ⟨rfl, rfl⟩

theorem ClosingStart.unique {c c₁ c₁' : Cursor α} {bs bs' : List (Block α)}
    (start : ClosingStart p c bs c₁) (start' : ClosingStart p c bs' c₁') : bs = bs' ∧ c₁ = c₁' := by
  cases start with
  | here fits =>
    cases start' with
    | here => exact ⟨rfl, rfl⟩
    | newPage tooLow => simp [fits] at tooLow
  | newPage tooLow =>
    cases start' with
    | here fits => simp [fits] at tooLow
    | newPage => exact ⟨rfl, rfl⟩

omit [Coordinate α] in
theorem ShowsTotals.unique {t t' : Totals α} (shown : ShowsTotals doc t)
    (shown' : ShowsTotals doc t') (place : t.y = t'.y) : t = t' := by
  obtain ⟨_, _, _, _, _⟩ := t
  obtain ⟨hsubtotal, hlabel, htax, htotal⟩ := shown
  obtain ⟨hsubtotal', hlabel', htax', htotal'⟩ := shown'
  obtain rfl := Except.ok.inj (hsubtotal'.symm.trans hsubtotal)
  obtain rfl := Except.ok.inj (hlabel'.symm.trans hlabel)
  obtain rfl := Except.ok.inj (htax'.symm.trans htax)
  obtain rfl := Except.ok.inj (htotal'.symm.trans htotal)
  obtain rfl := place
  rfl

theorem ClosingRun.unique {c c₁ c₁' : Cursor α} {bs bs' : List (Block α)}
    (run : ClosingRun metrics p doc c bs c₁) (run' : ClosingRun metrics p doc c bs' c₁') :
    bs = bs' ∧ c₁ = c₁' := by
  obtain ⟨start, shown, place, wrapped, measured, boxes⟩ := run
  obtain ⟨start', shown', place', wrapped', measured', boxes'⟩ := run'
  obtain ⟨rfl, rfl⟩ := start.unique start'
  obtain rfl := shown.unique shown' (place.trans place'.symm)
  obtain rfl := Except.ok.inj (wrapped.symm.trans wrapped')
  obtain rfl := Except.ok.inj (measured.symm.trans measured')
  obtain ⟨rfl, rfl⟩ := boxes.unique boxes'
  exact ⟨rfl, rfl⟩

/-! ## The document -/

theorem DocumentRun.unique {bs bs' : List (Block α)} {c c' : Cursor α}
    (run : DocumentRun metrics p doc bs c) (run' : DocumentRun metrics p doc bs' c') :
    bs = bs' ∧ c = c' := by
  obtain ⟨headers, table, entries, ending⟩ := run
  obtain ⟨headers', table', entries', ending'⟩ := run'
  obtain ⟨rfl, rfl, rfl⟩ := headers.unique headers'
  obtain ⟨rfl, rfl⟩ := table.unique table'
  obtain ⟨rfl, rfl⟩ := entries.unique entries'
  obtain ⟨rfl, rfl⟩ := ending.unique ending'
  exact ⟨rfl, rfl⟩

/-- What was rendered of a document is drawn for exactly one list of blocks. -/
theorem existsUnique_drawnAs {ms : List (Mark α)} {c : Cursor α}
    (h : doc.render metrics p = .ok (ms, c)) : ∃! bs, DrawnAs metrics p doc ms c bs := by
  obtain ⟨bs, drawn⟩ := exists_drawnAs h
  exact ⟨bs, drawn, fun _ drawn' => (drawn'.run.unique drawn.run).1⟩

end Billing.Layout

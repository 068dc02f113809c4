import Billing.Proofs.Answers
import Billing.Proofs.Previews

/-!
# One story

A request for a preview and a request for the print of the same form are refused alike
(`printOf_eq_previewOf`). Where a print is made, there is a preview too, and the preview, the
headers of the print, its pages, the message on the console and the message of the command for the
same items tell the same of the document (`IsToldAlike`).

* `create_of_prepare`: what is behind a print that is answered.
* `isDrawn_of_render`: what the pages tell of a document.
* `isTold_of_run`: what the command tells of the same items.
-/

namespace Billing

open Layout

/-! ## Messages -/

/-- Whether one of these lines is a message that ends in a number of items and a total. -/
def IsTold (count : Nat) (total : Int) (lines : List String) : Prop :=
  ∃ before figure, Number.groupedText total = .ok figure ∧
    before ++ "• 品目数: " ++ toString count ++ "件\n" ++ "• 合計金額: ¥" ++ figure ++ "（税込）" ∈ lines

theorem Summary.isTold {summary : Summary} {company person message : String}
    (h : summary.notification company person = .ok message) {lines : List String}
    (hmem : message ∈ lines) : IsTold summary.itemCount summary.grandTotal lines := by
  simp only [notification, bind_eq_ok, pure_eq_ok] at h
  obtain ⟨figure, hfigure, rfl⟩ := h
  refine ⟨"📄 *" ++ summary.kind.displayName ++ "を作成しました*\n\n" ++
    "• 宛先: " ++ company ++ " / " ++ person ++ " 様\n", figure, hfigure, ?_⟩
  simpa only [String.append_assoc] using hmem

/-! ## Pages -/

/-- What blocks tell of a document: every entry has a row of its own, of which the first segment
shows its figures; there is one summary, and a highlighted total. -/
structure Document.IsDrawn {α : Type} [Coordinate α] (d : Document) (metrics : Metrics α)
    (p : LayoutParams α) (bs : List (Block α)) : Prop where
  rows : ∃ rows, segments bs = rows.flatten ∧ List.Forall₂ (IsRow metrics p) d.entries rows
  figures : List.Forall₂ Entry.Shows d.entries ((segments bs).filterMap (·.figures))
  totals : ∃ t, summaries bs = [t] ∧ ShowsTotals d t
  callout : ∃ s y, .text s (pt 130) y calloutStyle ∈ drawing p bs ∧
    readFigure? s = some (d.grandTotal : Rat)

theorem Layout.forall₂_shows {α : Type} {metrics : Metrics α} {p : LayoutParams α}
    {xs : List Entry} {rows : List (List (Segment α))}
    (h : List.Forall₂ (IsRow metrics p) xs rows) :
    List.Forall₂ Entry.Shows xs (rows.flatten.filterMap (·.figures)) := by
  induction h with
  | nil => exact .nil
  | cons hrow _ ih =>
    obtain ⟨f, hf, shows⟩ := hrow.filterMap_figures
    rw [List.flatten_cons, List.filterMap_append, hf]
    exact .cons shows ih

theorem isDrawn_of_render {α : Type} [Coordinate α] {metrics : Metrics α}
    (canvas : metrics.IsCanvas) {p : LayoutParams α} {d : Document} {ms : List (Mark α)}
    {c : Cursor α} (h : d.render metrics p = .ok (ms, c)) :
    ∃ bs, DrawnAs metrics p d ms c bs ∧ d.IsDrawn metrics p bs := by
  obtain ⟨bs, rfl, run⟩ := exists_drawnAs h
  obtain ⟨rows, hrows, hall⟩ := run.exists_rows canvas
  refine ⟨bs, ⟨rfl, run⟩, ⟨rows, hrows, hall⟩, ?_, run.exists_totals, ?_⟩
  · rw [hrows]
    exact forall₂_shows hall
  · obtain ⟨⟨-, -, hclient, -⟩, -, -, -⟩ := run
    obtain ⟨_, s, y, -, hmark, hread⟩ := exists_callout hclient
    exact ⟨s, y, mem_drawing (b := .header .client _) (by simp) (List.mem_of_getElem? hmark), hread⟩

/-! ## Previews and headers -/

/-- What a preview tells of a document. -/
structure Document.IsShown (d : Document) (value : Json) : Prop where
  amounts : ∃ items, value.find? "entries" = some (.arr items) ∧
    items.map (·.find? "amount") = d.entries.map fun x => some (.int x.amount)
  subtotal : value.find? "subtotal" = some (.int d.subtotal)
  tax : value.find? "tax" = some (.int d.tax)
  grandTotal : value.find? "grand_total" = some (.int d.grandTotal)
  fileName : value.find? "filename" = some (.str d.summary.fileName)

/-- What headers tell of a document. -/
structure Document.IsHeaded (d : Document) (headers : List (String × String)) : Prop where
  itemCount : headers.lookup "x-item-count" = some (toString d.entries.length)
  grandTotal : headers.lookup "x-grand-total" = some (Number.integer d.grandTotal)
  fileName : headers.lookup "content-disposition" =
    some ("attachment; filename*=UTF-8''" ++ d.summary.fileName)

namespace Service

theorem isShown_documentJson (d : Document) : d.IsShown (documentJson d) where
  amounts := ⟨_, rfl, by rw [List.map_map]; rfl⟩
  subtotal := rfl
  tax := rfl
  grandTotal := rfl
  fileName := rfl

theorem isHeaded_of_summaryHeaders {d : Document} {headers : List (String × String)}
    (h : summaryHeaders d.summary = .ok headers) (others : List (String × String)) :
    d.IsHeaded (headers ++ others) := by
  simp only [summaryHeaders, bind_eq_ok, pure_eq_ok] at h
  obtain ⟨total, htotal, rfl⟩ := h
  obtain rfl : Number.integer d.grandTotal = total := by
    rw [Number.integerText] at htotal
    split_ifs at htotal
    exact Except.ok.inj htotal
  exact ⟨rfl, rfl, rfl⟩

/-! ## Requests -/

/-- The request sent to a path. -/
def Request.postedTo (r : Request) (path : String) : Request := { r with method := "POST", path }

/-- The answer to a request for a preview. -/
def Server.previewOf (server : Server) (r : Request) : Response :=
  (server.respond (r.postedTo "/api/documents/preview")).1

/-- The answer to a request for a print. -/
def Server.printOf (server : Server) (r : Request) : Response :=
  (server.respond (r.postedTo "/api/documents")).1

/-- Whether a request holds these particulars. -/
def Request.Holds (r : Request) (p : Particulars) : Prop :=
  ∃ form, r.form = .ok form ∧ Particulars.read form = .accepted p

theorem previewOf_eq (server : Server) (r : Request) :
    server.previewOf r =
      Server.send (server.originHeaders r) (withSubmission server.office r preview) := by
  have hroute : findRoute (meantPath "/api/documents/preview") "POST" = .ok .preview := rfl
  exact respond_of_route (r := r.postedTo "/api/documents/preview") server rfl hroute

theorem printOf_eq (server : Server) (r : Request) :
    server.printOf r =
      Server.send (server.originHeaders r) (withSubmission server.office r create) := by
  have hroute : findRoute (meantPath "/api/documents") "POST" = .ok .create := rfl
  exact respond_of_route (r := r.postedTo "/api/documents") server rfl hroute

/-- What was answered with another status than that of a request that is broken off. -/
theorem exists_of_send {headers : List (String × String)} {x : Except Fault Response}
    (h : (Server.send headers x).status ≠ 500) :
    ∃ response, x = .ok response ∧ response.content.isSendable ∧
      Server.send headers x = { response with headers := response.headers ++ headers } := by
  cases x with
  | error cause => exact absurd rfl h
  | ok response =>
    by_cases hsendable : response.content.isSendable
    · exact ⟨response, rfl, hsendable, if_pos hsendable⟩
    · rw [Server.send, if_neg hsendable] at h
      exact absurd rfl h

/-- How a request with particulars is handled. -/
theorem withSubmission_of_holds {o : Office} {r : Request} {p : Particulars} (h : r.Holds p)
    (handle : Office → Submission → Except Fault Response) :
    withSubmission o r handle = do
      let response ← handle o (p.submission o)
      if (p.submission o).filler.any response.content.shows then throw .strayHalf
      return response := by
  obtain ⟨form, hform, hread⟩ := h
  simp only [withSubmission, hform, hread]

/-- A request without particulars is refused, whatever is asked for. -/
theorem withSubmission_of_not_holds {r : Request} (h : ∀ p, ¬ r.Holds p) (o : Office) :
    ∃ response, response.status ≠ 200 ∧ ∀ handle, withSubmission o r handle = .ok response := by
  cases hform : r.form with
  | error e =>
    refine ⟨e.response, ?_, fun handle => by simp only [withSubmission, hform]⟩
    cases e with
    | problem => exact show 422 ≠ 200 by decide
    | unreadable => exact show 400 ≠ 200 by decide
  | ok form =>
    cases hread : Particulars.read form with
    | refused problems =>
      exact ⟨unprocessable problems, show 422 ≠ 200 by decide,
        fun handle => by simp only [withSubmission, hform, hread]⟩
    | accepted p => exact absurd ⟨form, hform, hread⟩ (h p)

/-- What was answered to a request with particulars, if it was not broken off. -/
theorem of_withSubmission {o : Office} {r : Request} {p : Particulars} (h : r.Holds p)
    {handle : Office → Submission → Except Fault Response} {response : Response}
    (hresponse : withSubmission o r handle = .ok response) :
    handle o (p.submission o) = .ok response ∧
      (p.submission o).filler.any response.content.shows = false := by
  rw [withSubmission_of_holds h, bind_eq_ok] at hresponse
  obtain ⟨response', hhandled, hresponse⟩ := hresponse
  cases hshows : (p.submission o).filler.any response'.content.shows with
  | true =>
    rw [hshows] at hresponse
    cases hresponse
  | false =>
    rw [hshows] at hresponse
    obtain rfl : response' = response := Except.ok.inj hresponse
    exact ⟨hhandled, hshows⟩

theorem exists_of_answer {o : Office} {r : Request} {p : Particulars} (h : r.Holds p)
    {handle : Office → Submission → Except Fault Response} {headers : List (String × String)}
    (hstatus : (Server.send headers (withSubmission o r handle)).status ≠ 500) :
    ∃ response, handle o (p.submission o) = .ok response ∧ response.content.isSendable ∧
      Server.send headers (withSubmission o r handle) =
        { response with headers := response.headers ++ headers } := by
  obtain ⟨response, hresponse, hsendable, hsend⟩ := exists_of_send hstatus
  exact ⟨response, (of_withSubmission h hresponse).1, hsendable, hsend⟩

theorem answer_of_handled {o : Office} {r : Request} {p : Particulars} (h : r.Holds p)
    {handle : Office → Submission → Except Fault Response} {response : Response}
    (hhandled : handle o (p.submission o) = .ok response)
    (hshows : (p.submission o).filler.any response.content.shows = false)
    (hsendable : response.content.isSendable) (headers : List (String × String)) :
    Server.send headers (withSubmission o r handle) =
      { response with headers := response.headers ++ headers } := by
  have hresponse : withSubmission o r handle = .ok response := by
    rw [withSubmission_of_holds h, hhandled]
    simp only [bind, Except.bind, hshows]
    rfl
  rw [hresponse]
  exact if_pos hsendable

theorem status_of_failure {e : Error} {response : Response} (h : failure e = .ok response) :
    response.status ≠ 200 := by
  cases e with
  | fault cause => cases h
  | unwritten reason =>
    obtain rfl := Except.ok.inj h
    exact show 500 ≠ 200 by decide
  | noItems | rejected reason =>
    obtain rfl := Except.ok.inj h
    exact show 400 ≠ 200 by decide

/-! ## Refusals -/

section

variable {o : Office} {s : Submission} {d : Document} {warned : Bool}

/-- What is not prepared is answered alike. -/
theorem preview_eq_create {e : Error} (h : o.prepare s = (.error e, warned)) :
    preview o s = create o s := by
  simp only [preview, create, Office.generate, h]
  rfl

theorem preview_of_prepare (h : o.prepare s = (.ok d, warned)) :
    preview o s =
      .ok (Response.after { content := .json (documentJson d) } (warnings warned)) := by
  simp only [preview, h]
  rfl

/-- What is prepared is printed, unless it is broken off or answered with status 500. -/
theorem create_of_prepare (h : o.prepare s = (.ok d, warned)) {response : Response}
    (hresponse : create o s = .ok response) :
    response.status = 500 ∨ ∃ printout message, o.print s.filler d = .ok printout ∧
      summaryHeaders d.summary = .ok response.headers ∧ response.content = .print printout ∧
      d.summary.notification s.clientCompany s.clientPerson = .ok message ∧
      message ∈ response.log ∧ response.status = 200 := by
  have hcreate {result : Except Error Printout} (hprint : o.print s.filler d = result) :
      o.generate s = (result.map fun printout => (printout, d.summary), warned) := by
    simp only [Office.generate, h, Except.bind, hprint]
  obtain ⟨cause, hprint⟩ | ⟨reason, hprint⟩ | ⟨printout, -, -, hprint, -⟩ :=
    o.print_cases s.filler d
  · simp only [create, hcreate hprint] at hresponse
    cases hresponse
  · simp only [create, hcreate hprint] at hresponse
    exact .inl (congrArg Response.status (Except.ok.inj hresponse)).symm
  · simp only [create, hcreate hprint, Except.map, bind_eq_ok, pure_eq_ok] at hresponse
    obtain ⟨message, hmessage, headers, hheaders, _, rfl, rfl⟩ := hresponse
    exact .inr ⟨printout, message, hprint, hheaders, rfl, hmessage, by simp [Response.after], rfl⟩

/-- A request is refused alike, whatever is asked for, or it holds a submission that is
prepared. -/
theorem refused_or_prepared (o : Office) (r : Request) :
    (∃ result, withSubmission o r preview = result ∧ withSubmission o r create = result ∧
      ∀ response, result = .ok response → response.status ≠ 200) ∨
      ∃ p d warned, r.Holds p ∧ o.prepare (p.submission o) = (.ok d, warned) := by
  by_cases hnone : ∀ p, ¬ r.Holds p
  · obtain ⟨response, hstatus, hresponse⟩ := withSubmission_of_not_holds hnone o
    refine .inl ⟨.ok response, hresponse preview, hresponse create, ?_⟩
    rintro _ ⟨⟩
    exact hstatus
  · obtain ⟨p, holds⟩ := not_forall_not.1 hnone
    rcases hprepare : o.prepare (p.submission o) with ⟨e | d, warned⟩
    · have hpreview : preview o (p.submission o) =
          (failure e).map (·.after (warnings warned)) := by
        simp only [preview, hprepare]
        rfl
      refine .inl ⟨_, rfl, ?_, fun response hresponse => ?_⟩
      · simp only [withSubmission_of_holds holds, preview_eq_create hprepare]
      · obtain ⟨hhandled, -⟩ := of_withSubmission holds hresponse
        obtain ⟨response, hfailure, rfl⟩ := exceptMap_eq_ok.1 (hpreview.symm.trans hhandled)
        exact show response.status ≠ 200 from status_of_failure hfailure
    · exact .inr ⟨p, d, warned, holds, hprepare⟩

end

/-- What is refused as a preview is refused as a print, with the same answer, and the other way
round. -/
theorem printOf_eq_previewOf {server : Server} {r : Request}
    (h : (server.previewOf r).status = 400 ∨ (server.printOf r).status = 400) :
    server.previewOf r = server.printOf r := by
  obtain ⟨result, hpreview, hprint, -⟩ | ⟨p, d, warned, holds, hprepare⟩ :=
    refused_or_prepared server.office r
  · rw [previewOf_eq, printOf_eq, hpreview, hprint]
  · exfalso
    rw [previewOf_eq, printOf_eq] at h
    obtain h | h := h
    · obtain ⟨response, hresponse, -, hsend⟩ :=
        exists_of_answer holds (ne_of_eq_of_ne h (by decide))
      rw [preview_of_prepare hprepare] at hresponse
      obtain rfl := Except.ok.inj hresponse
      rw [hsend] at h
      cases h
    · obtain ⟨response, hresponse, -, hsend⟩ :=
        exists_of_answer holds (ne_of_eq_of_ne h (by decide))
      rw [hsend] at h
      obtain hstatus | ⟨_, _, _, _, _, _, _, hstatus⟩ := create_of_prepare hprepare hresponse
      · simp [hstatus] at h
      · simp [hstatus] at h

end Service

/-! ## The command -/

/-- Submissions of the same items have the same entries and totals. -/
theorem entries_eq_of_prepare {o : Office} {s s' : Submission} {d d' : Document}
    (h : (o.prepare s).1 = .ok d) (h' : (o.prepare s').1 = .ok d')
    (hitems : Item.ofSheet s.sheet = Item.ofSheet s'.sheet) :
    d.entries = d'.entries ∧ d.grandTotal = d'.grandTotal := by
  obtain ⟨items, draft, issuer, hsheet, hprice, rfl⟩ := exists_draft_of_prepare h
  obtain ⟨items', draft', issuer', hsheet', hprice', rfl⟩ := exists_draft_of_prepare h'
  obtain rfl := Except.ok.inj (hsheet.symm.trans (hitems.trans hsheet'))
  have hpriced : draft.priced = draft'.priced := Except.ok.inj (hprice.symm.trans hprice')
  exact ⟨congrArg Priced.entries hpriced, congrArg Priced.grandTotal hpriced⟩

namespace Command

variable {o : Office} {folder : Folder} {input : ByteArray} {words : List String} {text : String}

/-- Whether a run of the command reads this text off its sheet. -/
def ReadsText (folder : Folder) (input : ByteArray) (words : List String) (text : String) : Prop :=
  ∃ a content, Arguments.read words = .ok a ∧
    (if a.readsInput then .ok input else folder.read a.sheet) = .ok content ∧
    sheetText? content = some text

/-- A run that ends well has generated a print, and tells of it. -/
theorem exists_of_run (reads : ReadsText folder input words text)
    (h : (run o folder input words).ending = .exit 0) :
    ∃ a printout summary message,
      (o.generate (Arguments.entered o a text)).1 = .ok (printout, summary) ∧
      summary.notification a.company a.person = .ok message ∧
      message ∈ (run o folder input words).printed := by
  obtain ⟨a, content, hread, hsheet, htext⟩ := reads
  rcases hresult : o.generate (a.entered o text) with ⟨e | ⟨printout, summary⟩, warned⟩
  · rw [run_of_error hread hsheet (produce_of_error htext hresult)] at h
    cases e <;> cases h
  have hproduce := produce_of_ok htext hresult
  cases hplace : (deliver o a printout summary).place folder with
  | error e =>
    simp only [run, hread, hsheet, hproduce, hplace] at h
    cases h
  | ok after =>
    cases hreport : (deliver o a printout summary).report with
    | error cause =>
      simp only [run, hread, hsheet, hproduce, hplace, hreport] at h
      cases h
    | ok lines =>
      rw [run_of_ok hread hsheet hproduce hplace hreport]
      obtain ⟨message, hmessage, hlines⟩ := bind_eq_ok.1 hreport
      obtain rfl := Except.ok.inj hlines
      exact ⟨a, printout, summary, message, by rw [hresult], hmessage, by simp⟩

/-- What the command tells of the items of a submission. -/
theorem isTold_of_run {s : Submission} {d : Document} (hprepare : (o.prepare s).1 = .ok d)
    (reads : ReadsText folder input words text)
    (hitems : Item.ofSheet text = Item.ofSheet s.sheet)
    (h : (run o folder input words).ending = .exit 0) :
    IsTold d.entries.length d.grandTotal (run o folder input words).printed := by
  obtain ⟨a, printout, summary, message, hresult, hmessage, hmem⟩ := exists_of_run reads h
  obtain ⟨d', hprepare', -, rfl⟩ := Office.exists_of_generate hresult
  obtain ⟨hentries, htotal⟩ := entries_eq_of_prepare hprepare' hprepare hitems
  have htold := Summary.isTold hmessage hmem
  rwa [Document.summary, hentries, htotal] at htold

end Command

/-! ## One story -/

open Service Command

/-- Everything that is told of a submission and its document: a preview shows it, the headers and
the message on the console tell of it, its pages are the ones that are sent, and the command tells
the same of the same items. -/
structure IsToldAlike (o : Office) (s : Submission) (d : Document) (previewed printed : Response) :
    Prop where
  prepare : (o.prepare s).1 = .ok d
  preview : previewed.status = 200 ∧ ∃ value, previewed.content = .json value ∧ d.IsShown value
  headers : d.IsHeaded printed.headers
  subtotal : (d.entries.map (·.amount)).sum = d.subtotal
  grandTotal : d.subtotal + d.tax = d.grandTotal
  pages : ∃ printout marks c bs, printed.content = .print printout ∧
    d.render o.canvas.metrics o.layout = .ok (marks, c) ∧
    printout.calls = (o.canvas.drawAll marks).1.calls ++ [.save] ∧
    DrawnAs o.canvas.metrics o.layout d marks c bs ∧ d.IsDrawn o.canvas.metrics o.layout bs
  console : IsTold d.entries.length d.grandTotal printed.log
  command : ∀ folder input words text, ReadsText folder input words text →
    Item.ofSheet text = Item.ofSheet s.sheet → (run o folder input words).ending = .exit 0 →
      IsTold d.entries.length d.grandTotal (run o folder input words).printed

theorem isToldAlike_of_print {server : Server} {r : Request}
    (h : (server.printOf r).status = 200) :
    ∃ p d, r.Holds p ∧ IsToldAlike server.office (p.submission server.office) d
      (server.previewOf r) (server.printOf r) := by
  rw [printOf_eq] at h
  obtain ⟨result, -, hprint, hstatus⟩ | ⟨p, d, warned, holds, hprepare⟩ :=
    refused_or_prepared server.office r
  · obtain ⟨response, hresponse, -, hsend⟩ := exists_of_send (ne_of_eq_of_ne h (by decide))
    rw [hsend] at h
    exact absurd h (hstatus response (hprint.symm.trans hresponse))
  obtain ⟨response, hresponse, -, hsend⟩ := exists_of_answer holds (ne_of_eq_of_ne h (by decide))
  rw [hsend] at h
  obtain hstatus | ⟨printout, message, hprint, hheaders, hcontent, hmessage, hmem, -⟩ :=
    create_of_prepare hprepare hresponse
  · exact absurd (hstatus.symm.trans h) (by decide)
  have hprepare' : (server.office.prepare (p.submission server.office)).1 = .ok d := by
    rw [hprepare]
  obtain ⟨items, draft, issuer, hitems, hprice, rfl⟩ := exists_draft_of_prepare hprepare'
  have hentry := fun e he => entry_of_ofSheet (e := e) hitems hprice he
  obtain ⟨hsubtotal, -, htotal, -⟩ := exists_of_price hprice
  obtain ⟨marks, c, hrender, -, -, hcalls⟩ := Office.exists_of_print hprint
  obtain ⟨bs, drawn, hdrawn⟩ := isDrawn_of_render (.print _) hrender
  -- what was printed can be shown and sent
  have hshows := not_shows_of_print hprint (fun c hc => Office.le_of_mem_filler hc)
    fun e he => (hentry e he).2
  have hpreview := answer_of_handled holds (preview_of_prepare hprepare) hshows
    (isSendable_documentJson fun e he => (hentry e he).1) (server.originHeaders r)
  rw [← previewOf_eq] at hpreview
  rw [← printOf_eq] at hsend
  rw [hpreview, hsend]
  refine ⟨p, _, holds, hprepare', ⟨rfl, _, rfl, isShown_documentJson _⟩,
    isHeaded_of_summaryHeaders hheaders _, ?_, htotal.symm,
    ⟨printout, marks, c, bs, hcontent, hrender, hcalls, drawn, hdrawn⟩,
    Summary.isTold hmessage hmem, fun folder input words text => isTold_of_run hprepare'⟩
  rw [← total_eq_sum]
  exact hsubtotal.symm

/-- A request is refused as a preview exactly if it is refused as a print, with the same answer.
If a print is made of it, there is a preview too, and everything that is told of the document
agrees. -/
theorem told_alike_of_respond (server : Server) (r : Request) :
    ((server.previewOf r).status = 400 ↔ (server.printOf r).status = 400) ∧
      ((server.printOf r).status = 400 → server.previewOf r = server.printOf r) ∧
      ((server.printOf r).status = 200 →
        ∃ p d, r.Holds p ∧ IsToldAlike server.office (p.submission server.office) d
          (server.previewOf r) (server.printOf r)) := by
  refine ⟨⟨fun h => ?_, fun h => ?_⟩, fun h => printOf_eq_previewOf (.inr h),
    isToldAlike_of_print⟩
  · rwa [← printOf_eq_previewOf (.inl h)]
  · rwa [printOf_eq_previewOf (.inr h)]

/-- A request with short remarks, for an item, overheads and the levy. -/
def briefRequest : Request :=
  { specimenRequest with
    body := "\x7b\"client_company\":\"A\",\"client_person\":\"B\"," ++
      "\"items_text\":\"C, 2日, 15000\\n諸経費, 10%\\n法定福利費\",\"remarks\":\"D\"\x7d" }

theorem told_alike_of_briefRequest :
    ((Server.ofOffice specimenOffice).printOf briefRequest).status = 200 ∧
      ∃ p d, briefRequest.Holds p ∧ IsToldAlike specimenOffice (p.submission specimenOffice) d
        ((Server.ofOffice specimenOffice).previewOf briefRequest)
        ((Server.ofOffice specimenOffice).printOf briefRequest) := by
  have hstatus : ((Server.ofOffice specimenOffice).printOf briefRequest).status = 200 := by
    decide +kernel
  exact ⟨hstatus, (told_alike_of_respond (.ofOffice specimenOffice) briefRequest).2.2 hstatus⟩

end Billing

import Mathlib
import Billing.Proofs.Delivery
import Billing.Service.Server

/-!
# How the service answers

What an office makes of a submission (`Handled`) is answered with status 200 and a preview or a
print, or with status 400 or 500 and an explanation (`Answered`). A request is broken off exactly if
a fault stops the submission, or if the answer holds half a character or a number that is not finite
and so cannot be sent.

* `previewed`, `created`: the answers to requests for a preview and a print.
* `concluded_and_answered`: how the command and the service deliver what an office makes.
-/

namespace Billing

namespace Service

/-- The content of an answer that explains an error. -/
def explanation (e : Error) : Content :=
  .json (.obj [("detail", .obj [("error", .str e.message)])])

/-- What an office makes of a submission for the service: the errors with which it may have `failed`
and the contents that it may have `made`. -/
inductive Handled (failed : Error → Prop) (made : Content → Prop) :
    Except Fault Response → Prop where
  | broken {cause} (hfailed : failed (.fault cause)) : Handled failed made (.error cause)
  | refused {e} (hfailed : failed e) {response : Response}
    (hstatus : response.status = 400 ∨ response.status = 500)
    (hcontent : response.content = explanation e) : Handled failed made (.ok response)
  | made {response : Response} (hstatus : response.status = 200)
    (hcontent : made response.content) : Handled failed made (.ok response)

/-- What is answered over the service. -/
inductive Answered (failed : Error → Prop) (made : Content → Prop) (filler : Option Char) :
    Response → Prop where
  | broken {cause} (hfailed : failed (.fault cause)) : Answered failed made filler .broken
  | unsendable {content : Content}
    (hcontent : made content ∨ ∃ e, failed e ∧ content = explanation e)
    (hunsendable : filler.any content.shows ∨ content.isSendable = false) :
    Answered failed made filler .broken
  | refused {e} (hfailed : failed e) {response : Response}
    (hstatus : response.status = 400 ∨ response.status = 500)
    (hcontent : response.content = explanation e) : Answered failed made filler response
  | made {response : Response} (hstatus : response.status = 200)
    (hcontent : made response.content) : Answered failed made filler response

section

variable {failed : Error → Prop} {made : Content → Prop}

theorem Handled.after {result : Except Fault Response} (h : Handled failed made result)
    (lines : List String) : Handled failed made (result.map (·.after lines)) := by
  cases h with
  | broken hfailed => exact .broken hfailed
  | refused hfailed hstatus hcontent => exact .refused hfailed hstatus hcontent
  | made hstatus hcontent => exact .made hstatus hcontent

theorem handled_failure {e : Error} (h : failed e) : Handled failed made (failure e) := by
  cases e with
  | fault cause => exact .broken h
  | unwritten reason => exact .refused h (.inr rfl) rfl
  | noItems | rejected reason => exact .refused h (.inl rfl) rfl

/-- What is sent of a response: the response with more headers, or nothing if it holds half a
character or cannot be written. -/
theorem send_cases (filler : Option Char) (headers : List (String × String)) (response : Response) :
    Server.send headers (do
        if filler.any response.content.shows then throw .strayHalf
        return response) = { response with headers := response.headers ++ headers } ∨
      (filler.any response.content.shows ∨ response.content.isSendable = false) ∧
        Server.send headers (do
          if filler.any response.content.shows then throw .strayHalf
          return response) = .broken := by
  cases hshows : filler.any response.content.shows with
  | true => exact .inr ⟨.inl rfl, rfl⟩
  | false =>
    cases hsendable : response.content.isSendable with
    | true => exact .inl (if_pos hsendable)
    | false => exact .inr ⟨.inr rfl, if_neg (by rw [hsendable]; exact Bool.false_ne_true)⟩

/-- What was handled is answered, unless it cannot be sent. -/
theorem Handled.answered {filler : Option Char} {result : Except Fault Response}
    (h : Handled failed made result) (headers : List (String × String)) :
    Answered failed made filler (Server.send headers (do
      let response ← result
      if filler.any response.content.shows then throw .strayHalf
      return response)) := by
  cases h with
  | broken hfailed => exact .broken hfailed
  | @refused e hfailed response hstatus hcontent =>
    obtain hsent | ⟨hunsendable, hsent⟩ := send_cases filler headers response
    · exact hsent ▸ .refused hfailed hstatus hcontent
    · exact hsent ▸ .unsendable (.inr ⟨e, hfailed, hcontent⟩) hunsendable
  | @made response hstatus hcontent =>
    obtain hsent | ⟨hunsendable, hsent⟩ := send_cases filler headers response
    · exact hsent ▸ .made hstatus hcontent
    · exact hsent ▸ .unsendable (.inl hcontent) hunsendable

end

/-- The contents that show a submission. -/
def IsPreview (o : Office) (s : Submission) (text : String) (content : Content) : Prop :=
  ∃ draft issuer, Drafted o.rates o.today s text (.ok draft) ∧
    (o.issuerNow s.filler).1 = .ok issuer ∧
    content = .json (documentJson (draft.issue o.notes issuer))

/-- The contents that are the print of a submission. -/
def IsPrint (o : Office) (s : Submission) (text : String) (content : Content) : Prop :=
  ∃ printout summary, Generated o s text (.ok (printout, summary)) ∧ content = .print printout

section

variable {o : Office} {s : Submission} {text : String}

theorem handled_preview (ready : o.IsReady) (hkind : s.kind = .str text)
    (hlines : (Text.lines s.sheet).length ≤ 10 ^ 30000) :
    Handled (fun e => Drafted o.rates o.today s text (.error e)) (IsPreview o s text)
      (preview o s) := by
  have hdrafted := drafted o.today hkind hlines ready.tax ready.welfare
  cases hdraft : s.draft o.rates o.today with
  | error e =>
    have hpreview : preview o s = (failure e).map (·.after (warnings false)) := by
      simp only [preview, Office.prepare, hdraft]
      rfl
    rw [hdraft] at hdrafted
    exact hpreview ▸ (handled_failure hdrafted).after _
  | ok draft =>
    obtain ⟨issuer, hnow, -⟩ := ready.issuer s.filler
    have hissuer : o.issuerNow s.filler = (.ok issuer, (o.issuerNow s.filler).2) := by rw [← hnow]
    have hpreview : preview o s =
        .ok (Response.after { content := .json (documentJson (draft.issue o.notes issuer)) }
          (warnings (o.issuerNow s.filler).2)) := by
      simp only [preview, o.prepare_of_draft s hdraft hissuer]
      rfl
    rw [hdraft] at hdrafted
    exact hpreview ▸ .made rfl ⟨draft, issuer, hdrafted, hnow, rfl⟩

theorem handled_create (ready : o.IsReady) (hkind : s.kind = .str text)
    (hlines : (Text.lines s.sheet).length ≤ 10 ^ 30000) :
    Handled (fun e => Generated o s text (.error e)) (IsPrint o s text) (create o s) := by
  have hgenerated := generated ready hkind hlines
  rcases hresult : o.generate s with ⟨e | ⟨printout, summary⟩, warned⟩
  · rw [hresult] at hgenerated
    have hcreate : create o s = (failure e).map (·.after (warnings warned)) := by
      simp only [create, hresult]
      rfl
    exact hcreate ▸ (handled_failure hgenerated).after _
  · rw [hresult] at hgenerated
    have htotal : Number.isWritable summary.grandTotal := by
      cases hgenerated with
      | complete _ _ _ _ hprint => exact hprint.isWritable.grandTotal
    obtain ⟨message, hmessage⟩ :
        ∃ message, summary.notification s.clientCompany s.clientPerson = .ok message :=
      ⟨_, bind_eq_ok.2 ⟨_, if_pos htotal, rfl⟩⟩
    obtain ⟨headers, hheaders⟩ : ∃ headers, summaryHeaders summary = .ok headers :=
      ⟨_, bind_eq_ok.2 ⟨_, if_pos htotal, rfl⟩⟩
    have hcreate : create o s = .ok (Response.after
        { headers, content := .print printout, log := [message] } (warnings warned)) := by
      simp only [create, hresult, hmessage, hheaders]
      rfl
    exact hcreate ▸ .made rfl ⟨printout, summary, hgenerated, rfl⟩

end

/-! ## Requests -/

/-- The kind that a form asks for, with a character that stands for halves of characters. -/
def Particulars.kindText (p : Particulars) (o : Office) : String :=
  p.kind.fill (p.submission o).filler

theorem Particulars.kind_submission (p : Particulars) (o : Office) :
    (p.submission o).kind = .str (p.kindText o) := by
  simp only [submission, kindText]

/-- Whether a request posts a form with these particulars, all of them texts. No sheet that fits into
a memory has more lines. -/
structure IsPosted (o : Office) (r : Request) (p : Particulars) : Prop where
  method : r.method = "POST"
  form : ∃ form, r.form = .ok form ∧ Particulars.read form = .accepted p
  lines : (Text.lines (p.submission o).sheet).length ≤ 10 ^ 30000

/-- What is answered to a request for a preview. -/
def Previewed (o : Office) (p : Particulars) : Response → Prop :=
  Answered (fun e => Drafted o.rates o.today (p.submission o) (p.kindText o) (.error e))
    (IsPreview o (p.submission o) (p.kindText o)) (p.submission o).filler

/-- What is answered to a request for a print. -/
def Created (o : Office) (p : Particulars) : Response → Prop :=
  Answered (fun e => Generated o (p.submission o) (p.kindText o) (.error e))
    (IsPrint o (p.submission o) (p.kindText o)) (p.submission o).filler

section

variable {server : Server} {r : Request} {p : Particulars}

/-- The headers that tell of origins in the answer to a request. -/
def Server.originHeaders (server : Server) (r : Request) : List (String × String) :=
  (r.header? "origin").elim [] server.origins.headers

/-- The answer to a request at the path of an endpoint for documents. -/
theorem respond_of_route (server : Server) {endpoint : Endpoint} (hmethod : r.method = "POST")
    (hroute : findRoute (meantPath r.path) "POST" = .ok endpoint) :
    (server.respond r).1 =
      Server.send (server.originHeaders r) (server.serve r endpoint).1 := by
  have hhandle : server.handle r = server.serve r endpoint := by
    rw [Server.handle, hmethod, hroute]
  have hpreflight : Origins.preflightMethod? r = none := by
    rw [Origins.preflightMethod?, hmethod, if_neg (by decide)]
  cases horigin : r.header? "origin" with
  | none => simp only [Server.respond, Server.originHeaders, horigin, hhandle, Option.elim]
  | some origin =>
    simp only [Server.respond, Server.originHeaders, horigin, hpreflight, hhandle, Option.elim]

/-- A form whose fields are texts is answered as its submission is handled. -/
theorem answered_of_handled {o : Office} {failed : Error → Prop} {made : Content → Prop}
    {handle : Office → Submission → Except Fault Response} (posted : IsPosted o r p)
    (h : Handled failed made (handle o (p.submission o))) (headers : List (String × String)) :
    Answered failed made (p.submission o).filler
      (Server.send headers (withSubmission o r handle)) := by
  obtain ⟨form, hform, hread⟩ := posted.form
  simp only [withSubmission, hform, hread]
  exact h.answered headers

theorem previewed (ready : server.office.IsReady) (posted : IsPosted server.office r p)
    (hpath : r.path = "/api/documents/preview") :
    Previewed server.office p (server.respond r).1 := by
  have hroute : findRoute (meantPath r.path) "POST" = .ok .preview := by
    rw [hpath]
    rfl
  have hhandled := handled_preview ready (p.kind_submission server.office) posted.lines
  exact respond_of_route server posted.method hroute ▸ answered_of_handled posted hhandled _

theorem created (ready : server.office.IsReady) (posted : IsPosted server.office r p)
    (hpath : r.path = "/api/documents") : Created server.office p (server.respond r).1 := by
  have hroute : findRoute (meantPath r.path) "POST" = .ok .create := by
    rw [hpath]
    rfl
  have hhandled := handled_create ready (p.kind_submission server.office) posted.lines
  exact respond_of_route server posted.method hroute ▸ answered_of_handled posted hhandled _

end

end Service

open Command Service

/-- How an office delivers what it makes. A run of the command that can put a print in its place
leaves the print there or a message, unless the sheet is no text or a fault stops the submission;
the service answers with what was asked for or an explanation, unless a fault stops the submission
or the answer cannot be sent. -/
theorem concluded_and_answered (server : Server) (ready : server.office.IsReady) :
    (∀ folder input words a content,
      IsSupplied server.office folder input words a content →
      Concluded server.office a folder content (run server.office folder input words)) ∧
    ∀ r p, IsPosted server.office r p →
      (r.path = "/api/documents/preview" → Previewed server.office p (server.respond r).1) ∧
      (r.path = "/api/documents" → Created server.office p (server.respond r).1) :=
  ⟨fun _ _ _ _ _ supplied => concluded ready supplied,
    fun _ _ posted => ⟨previewed ready posted, created ready posted⟩⟩

/-! ## A specimen -/

def specimenServer : Server := .ofOffice plainOffice

/-- A sheet of one line. -/
def plainSheet : String := "コーン標識, 10, 3500\n"

def specimenRequest : Request where
  method := "POST"
  path := "/api/documents"
  headers := [("content-type", "application/json")]
  body := "\x7b\"client_company\":\"A\",\"client_person\":\"B\",\"items_text\":\"C, 1, 2\"\x7d"

/-- What the request posts. -/
def specimenForm : Form :=
  [("client_company", .str "A"), ("client_person", .str "B"), ("items_text", .str "C, 1, 2")]

def specimenParticulars : Particulars where
  clientCompany := "A"
  clientPerson := "B"
  sheet := "C, 1, 2"
  remarks := ""
  kind := "estimate"

theorem specimen_isSupplied : IsSupplied plainOffice (specimenFolder plainSheet) .empty
    specimenWords specimenArguments plainSheet.toUTF8 where
  arguments := read_specimenWords
  sheet := read_specimenFolder plainSheet
  lines text htext := by
    rw [sheetText?_toUTF8 (by decide)] at htext
    obtain rfl := Option.some.inj htext
    calc
      (Text.lines plainSheet).length = 2 := by decide +kernel
      _ ≤ 10 ^ 1 := by norm_num
      _ ≤ 10 ^ 30000 := by gcongr <;> norm_num
  place _ _ _ := isPlaceable_specimenFolder ..

theorem form_specimenRequest : specimenRequest.form = .ok specimenForm := by
  have htype : (specimenRequest.header? "content-type").elim false isJsonType = true := by
    decide +kernel
  have htext : bodyText? specimenRequest.body.toUTF8 = some (specimenRequest.body.toList, []) := by
    decide +kernel
  have hvalue : Json.readNested [] Json.nestingLimit specimenRequest.body.toList =
      .ok (.obj specimenForm) := by cbv
  have hbody : readBody specimenRequest.body.toUTF8 = .ok (.obj specimenForm) := by
    simp only [readBody, htext, hvalue]
  rw [Request.form, if_neg (by decide +kernel), if_pos htype, hbody]
  rfl

theorem specimen_isPosted :
    IsPosted plainOffice specimenRequest specimenParticulars where
  method := rfl
  form := ⟨specimenForm, form_specimenRequest, rfl⟩
  lines := by
    calc
      (Text.lines "C, 1, 2").length = 10 ^ 0 := by decide +kernel
      _ ≤ 10 ^ 30000 := by gcongr <;> norm_num

theorem concluded_and_answered_specimen :
    plainOffice.IsReady ∧
      IsSupplied plainOffice (specimenFolder plainSheet) .empty specimenWords
        specimenArguments plainSheet.toUTF8 ∧
      IsPosted plainOffice specimenRequest specimenParticulars ∧
      Concluded plainOffice specimenArguments (specimenFolder plainSheet)
        plainSheet.toUTF8
        (run plainOffice (specimenFolder plainSheet) .empty specimenWords) ∧
      Created plainOffice specimenParticulars
        (specimenServer.respond specimenRequest).1 := by
  obtain ⟨hconcluded, hanswered⟩ := concluded_and_answered specimenServer plainOffice_isReady
  exact ⟨plainOffice_isReady, specimen_isSupplied, specimen_isPosted,
    hconcluded _ _ _ _ _ specimen_isSupplied, (hanswered _ _ specimen_isPosted).2 rfl⟩

end Billing

import Billing.Canvas.Pdf
import Billing.Document.Summary
import Billing.Layout.Render
import Billing.Settings.Company

/-!
# The office

An office makes documents: it prices and dates what was entered, adds its issuer (`Office.prepare`),
and prints the result (`Office.generate`). The issuer comes from the settings file unless the office
has one of its own; the file is read only for a submission that is complete.

* `Office.prepare_of_draft`: what becomes of a submission before it is drawn.
* `Office.exists_of_generate`: a printed document is a prepared one.
-/

namespace Billing

/-- What documents are made with. -/
structure Office where
  rates : Rates
  notes : Notes
  layout : LayoutParams Binary64
  /-- Where prints are kept. -/
  outputDirectory : String
  environment : Environment
  settings : SettingsStore
  /-- The issuer, if it is not the one of the settings. -/
  issuer : Option Issuer := none
  today : Date
  /-- The canvas as it is before a print. -/
  canvas : Canvas Binary64

namespace Office

/-- The office with what an environment settles. -/
def ofConstants (constants : Constants) (environment : Environment) (settings : SettingsStore)
    (today : Date) (canvas : Canvas Binary64) : Office where
  rates := constants.rates
  notes := constants.notes
  layout := constants.layout
  outputDirectory := constants.outputDirectory
  environment
  settings
  today
  canvas

/-- A character that neither these texts nor those of the office have, to stand for halves of
characters. -/
def filler? (o : Office) (texts : List Text.Raw) : Option Char :=
  let own := o.notes.validity.toList ++ o.notes.paymentDue.toList ++
    (o.settings.load o.environment).1.flatMap fun (_, value) => value.characters
  (Text.absent 1 (texts.flatMap (·.characters) ++ own)).head?

/-- The issuer of a document, and whether to warn that the settings file could not be read. -/
def issuerNow (o : Office) (filler : Option Char) : Except Fault Issuer × Bool :=
  match o.issuer with
  | some issuer => (.ok issuer, false)
  | none => o.settings.issuer o.environment filler

/-- The document of a submission, and whether to warn that the settings file could not be read. -/
def prepare (o : Office) (s : Submission) : Except Error Document × Bool :=
  match s.draft o.rates o.today with
  | .error e => (.error e, false)
  | .ok draft =>
    let (issuer, warned) := o.issuerNow s.filler
    ((Fault.lift issuer).map (draft.issue o.notes), warned)

/-- The fault that stops a print whose layout was stopped by `cause`: half a character in the issuer
block, if it is drawn before the value that is no text. -/
def stoppedBy (filler : Option Char) (d : Document) (cause : Fault) : Fault :=
  let isTorn := filler.any fun c => (Layout.issuerTexts d.issuer).any (·.toList.contains c)
  if cause = .notText && isTorn then .strayHalf else cause

/-- The print of a document in which a character may stand for halves of characters, which no
printer can write. -/
def print (o : Office) (filler : Option Char) (d : Document) : Except Error Printout := do
  let (marks, _) ← (d.render o.canvas.metrics o.layout).mapError (.fault <| stoppedBy filler d ·)
  let (drawn, canvas) := o.canvas.drawAll marks
  if filler.any fun c => drawn.calls.any (Call.paints c) then throw (.fault .strayHalf)
  if let some fault := drawn.fault then throw (.fault fault)
  let (closing, finished) := canvas.finish
  let canvas ← finished
  return {
    calls := drawn.calls ++ closing
    pages := canvas.pages
    pageWidth := canvas.pageWidth
    pageHeight := canvas.pageHeight }

/-- The print of a submission with its summary, and whether to warn that the settings file could
not be read. -/
def generate (o : Office) (s : Submission) : Except Error (Printout × Summary) × Bool :=
  let (document, warned) := o.prepare s
  (document.bind fun d => (o.print s.filler d).map fun printout => (printout, d.summary), warned)

/-- What becomes of a submission before it is drawn. -/
theorem prepare_of_draft (o : Office) (s : Submission) {draft : Draft} {issuer : Issuer}
    {warned : Bool} (hd : s.draft o.rates o.today = .ok draft)
    (hi : o.issuerNow s.filler = (.ok issuer, warned)) :
    o.prepare s = (.ok (draft.issue o.notes issuer), warned) := by
  simp only [prepare, hd, hi]
  rfl

/-- A printed document is a prepared one, and its summary is that of the document. -/
theorem exists_of_generate {o : Office} {s : Submission} {printout : Printout} {summary : Summary}
    (h : (o.generate s).1 = .ok (printout, summary)) :
    ∃ d, (o.prepare s).1 = .ok d ∧ o.print s.filler d = .ok printout ∧ summary = d.summary := by
  simp only [generate] at h
  cases hp : (o.prepare s).1 with
  | error e => simp [hp, Except.bind] at h
  | ok d =>
    cases hq : o.print s.filler d with
    | error e => simp [hp, hq, Except.bind, Except.map] at h
    | ok q =>
      simp only [hp, hq, Except.bind, Except.map, Except.ok.injEq, Prod.mk.injEq] at h
      exact ⟨d, rfl, h.1 ▸ hq, h.2.symm⟩

end Office

end Billing

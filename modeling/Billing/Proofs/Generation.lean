import Billing.Proofs.Preparation
import Billing.Proofs.Printing

/-!
# What an office generates

An office that has an issuer drafts what it receives, issues the draft and prints the document; the
first of these stages that finds something wrong decides how it ends (`Generated`).

* `Office.hasIssuer_of_settings`: settings that are texts give an issuer.
* `generated`: how a submission ends.
-/

namespace Billing

/-! ## Issuers -/

theorem Json.filled_of_raw? {x : Json} (h : x.raw?.isSome) (filler : Option Char) :
    ∃ s, x.filled filler = .str s := by
  cases x with
  | str s => exact ⟨s, rfl⟩
  | torn ps => exact ⟨_, rfl⟩
  | _ => cases h

theorem Layout.exists_issuerLine_str (label s : String) :
    ∃ line, issuerLine label (.str s) = .ok line := by
  unfold issuerLine
  split_ifs
  · exact ⟨_, rfl⟩
  · exact ⟨_, rfl⟩
  · exact ⟨_, rfl⟩

/-- An issuer whose fields are texts can be drawn. -/
theorem Issuer.isPrintable_of_texts {issuer : Issuer} (hname : ∃ s, issuer.companyName = .str s)
    (h : ∀ particular ∈ Layout.issuerParticulars issuer, ∃ s, particular.2 = .str s) :
    issuer.IsPrintable where
  companyName := hname
  particulars := by
    cases hlines : (Layout.issuerParticulars issuer).mapM fun particular =>
        Layout.issuerLine particular.1 particular.2 with
    | error cause =>
      obtain ⟨⟨label, x⟩, hparticular, hfail⟩ := exists_of_mapM_eq_error hlines
      obtain ⟨s, rfl⟩ := h _ hparticular
      obtain ⟨line, hline⟩ := Layout.exists_issuerLine_str label s
      cases hline.symm.trans hfail
    | ok lines => exact ⟨_, bind_eq_ok.2 ⟨lines, hlines, rfl⟩⟩

/-- Settings that are all texts give an issuer that can be drawn. -/
theorem Issuer.exists_ofSettings {find? : String → Option Json}
    (h : ∀ key x, find? key = some x → x.raw?.isSome) (filler : Option Char) :
    ∃ issuer, ofSettings filler find? = .ok issuer ∧ issuer.IsPrintable := by
  have hfield (key : String) : ∃ s, ((find? key).getD (.str "")).filled filler = .str s := by
    cases hkey : find? key with
    | none => exact ⟨"", rfl⟩
    | some x => exact Json.filled_of_raw? (h key x hkey) filler
  choose field hfield using hfield
  simp only [ofSettings, hfield]
  refine ⟨_, rfl, Issuer.isPrintable_of_texts ⟨_, rfl⟩ ?_⟩
  simp [Layout.issuerParticulars]

/-- Whether an office can issue documents, whatever stands for halves of characters. -/
def Office.HasIssuer (o : Office) : Prop :=
  ∀ filler, ∃ issuer, (o.issuerNow filler).1 = .ok issuer ∧ issuer.IsPrintable

/-- An office without an issuer of its own can take one from settings that are texts. -/
theorem Office.hasIssuer_of_settings {o : Office} (hown : o.issuer = none)
    (h : ∀ setting ∈ (o.settings.load o.environment).1, setting.2.raw?.isSome) :
    o.HasIssuer := by
  intro filler
  simp only [issuerNow, hown, SettingsStore.issuer]
  refine Issuer.exists_ofSettings (fun key x hx => ?_) filler
  obtain ⟨setting, hsetting, rfl⟩ := Option.map_eq_some_iff.1 hx
  exact h setting (List.mem_of_find?_eq_some hsetting)

/-- The settings are texts if there is no settings file. -/
theorem Office.hasIssuer_of_missing {o : Office} (hown : o.issuer = none)
    (hfile : o.settings.text? = none) : o.HasIssuer := by
  refine o.hasIssuer_of_settings hown fun setting hsetting => ?_
  simp only [SettingsStore.load, loadSettings, hfile] at hsetting
  obtain ⟨_, -, rfl⟩ := List.mem_map.1 hsetting
  rfl

/-! ## Generating -/

/-- How an office generates the print of a submission that asks for the kind `text`. -/
inductive Generated (o : Office) (s : Submission) (text : String) :
    Except Error (Printout × Summary) → Prop where
  | undrafted {e} (hdraft : Drafted o.rates o.today s text (.error e)) :
    Generated o s text (.error e)
  | unprinted {draft} (hdraft : Drafted o.rates o.today s text (.ok draft)) {issuer}
    (hissuer : (o.issuerNow s.filler).1 = .ok issuer) {e}
    (hprint : Printed o s.filler (draft.issue o.notes issuer) (.error e)) :
    Generated o s text (.error e)
  | complete {draft} (hdraft : Drafted o.rates o.today s text (.ok draft))
    (hkind : DocumentKind.ofText text = .ok draft.kind) (hdate : draft.issuedOn = o.today) {issuer}
    (hissuer : (o.issuerNow s.filler).1 = .ok issuer) {printout}
    (hprint : Printed o s.filler (draft.issue o.notes issuer) (.ok printout)) :
    Generated o s text (.ok (printout, (draft.issue o.notes issuer).summary))

theorem Draft.of_check {kind : DocumentKind} {company person remarks : String} {priced : Priced}
    {issuedOn : Date} {draft : Draft}
    (h : Draft.check kind company person priced remarks issuedOn = .ok draft) :
    draft.kind = kind ∧ draft.issuedOn = issuedOn := by
  simp only [Draft.check] at h
  split_ifs at h
  obtain rfl := Except.ok.inj h
  exact ⟨rfl, rfl⟩

/-- A draft is of the kind that was asked for, and of the day. -/
theorem Draft.of_submission {rates : Rates} {issuedOn : Date} {s : Submission} {draft : Draft}
    (h : s.draft rates issuedOn = .ok draft) :
    DocumentKind.ofValue s.kind = .ok draft.kind ∧ draft.issuedOn = issuedOn := by
  obtain ⟨kind, hkind, items, -, -, priced, -, hcheck⟩ := Submission.draft_eq_ok.1 h
  obtain ⟨rfl, hdate⟩ := Draft.of_check hcheck
  exact ⟨hkind, hdate⟩

/-- Whether an office has the usual measures, an issuer, and rates with few digits. -/
structure Office.IsReady (o : Office) : Prop where
  layout : o.layout = .standard
  issuer : o.HasIssuer
  tax : o.rates.tax.IsSized 30000
  welfare : o.rates.welfare.IsSized 30000

/-- An office generates the print of whatever it receives in these stages. -/
theorem generated {o : Office} {s : Submission} {text : String} (ready : o.IsReady)
    (hkind : s.kind = .str text) (hlines : (Text.lines s.sheet).length ≤ 10 ^ 30000) :
    Generated o s text (o.generate s).1 := by
  have hdrafted := drafted o.today hkind hlines ready.tax ready.welfare
  cases hdraft : s.draft o.rates o.today with
  | error e =>
    have hgenerate : (o.generate s).1 = .error e := by
      simp only [Office.generate, Office.prepare, hdraft]
      rfl
    rw [hdraft] at hdrafted
    exact hgenerate ▸ .undrafted hdrafted
  | ok draft =>
    obtain ⟨issuer, hnow, hprintable⟩ := ready.issuer s.filler
    have hgenerate : (o.generate s).1 = (o.print s.filler (draft.issue o.notes issuer)).map
        fun printout => (printout, (draft.issue o.notes issuer).summary) := by
      have hissuer : o.issuerNow s.filler = (.ok issuer, (o.issuerNow s.filler).2) := by rw [← hnow]
      simp only [Office.generate, o.prepare_of_draft s hdraft hissuer, Except.bind]
    obtain ⟨hdraftkind, hdate⟩ := Draft.of_submission hdraft
    rw [hkind] at hdraftkind
    rw [hdraft] at hdrafted
    have hlabel : ∃ label, taxLabel (draft.issue o.notes issuer).taxRate = .ok label := by
      obtain ⟨-, -, -, hrate⟩ : _ ∧ _ ∧ _ ∧ draft.priced.taxRate = o.rates.tax := by
        cases hdrafted with
        | complete _ _ _ _ _ _ _ hentries _ => exact exists_of_price hentries
      exact exists_taxLabel_of_isSized (hrate ▸ ready.tax) (by norm_num)
    have hprinted :=
      printed ready.layout s.filler (d := draft.issue o.notes issuer) hprintable hlabel
    rw [hgenerate]
    cases hprint : o.print s.filler (draft.issue o.notes issuer) with
    | error e => exact .unprinted hdrafted hnow (hprint ▸ hprinted)
    | ok printout => exact .complete hdrafted hdraftkind hdate hnow (hprint ▸ hprinted)

/-- The integers of a document whose print was generated can be written. -/
theorem Printed.isWritable {o : Office} {filler : Option Char} {d : Document} {printout : Printout}
    (h : Printed o filler d (.ok printout)) : d.IsWritable := by
  cases h with
  | complete hshort => exact hshort

/-! ## A specimen -/

/-- An office without an issuer of its own and without a settings file. -/
def plainOffice : Office := { specimenOffice with issuer := none }

theorem plainOffice_isReady : plainOffice.IsReady where
  layout := rfl
  issuer := Office.hasIssuer_of_missing rfl rfl
  tax := (isSized_usualRates (by norm_num)).1
  welfare := (isSized_usualRates (by norm_num)).2

end Billing

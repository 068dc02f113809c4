import Billing.Office
import Billing.Proofs.PriceBounds

/-!
# What becomes of a submission

A submission is looked at in stages: the kind that it asks for, the prices of its sheet, whether the
sheet holds an item, the amounts, and last the client. The first stage that finds something wrong
decides how it ends (`Drafted`); if none does, a document is made.

* `isSized_enteredItem`: the numbers of a line that is read are bounded.
* `price_keptLines_cases`: they are priced unless a quantity is infinite.
* `drafted`: how a submission ends.
* `exists_drafted_of_prepare`: what an office prepares.
-/

namespace Billing

/-! ## Numbers on a line -/

namespace Text

theorem digitValue?_lt {c : Char} {d : Nat} (h : digitValue? c = some d) : d < 10 := by
  obtain ⟨z, hz, rfl⟩ := Option.map_eq_some_iff.1 h
  have := List.find?_some hz
  simp only [Bool.and_eq_true, decide_eq_true_eq] at this
  omega

theorem foldl_digitValue_lt (s : List Char) (n : Nat) :
    s.foldl (fun n c => 10 * n + (digitValue? c).getD 0) n < (n + 1) * 10 ^ s.length := by
  induction s generalizing n with
  | nil => simp
  | cons c s ih =>
    have hdigit : (digitValue? c).getD 0 < 10 := by
      cases h : digitValue? c with
      | none => norm_num
      | some d => exact digitValue?_lt h
    rw [List.foldl_cons, List.length_cons, Nat.pow_succ', ← Nat.mul_assoc]
    refine (ih _).trans_le (Nat.mul_le_mul_right _ ?_)
    omega

theorem digitsValue_lt_pow (s : List Char) : digitsValue s < 10 ^ s.length := by
  have := foldl_digitValue_lt s 0
  rwa [zero_add, one_mul] at this

end Text

theorem Binary64.ofQuotient_ne_nan (negative : Bool) (n d : Nat) :
    ofQuotient negative n d ≠ nan := by
  unfold ofQuotient
  split <;> simp

theorem Binary64.ofDecimal_ne_nan (negative : Bool) (c : Nat) (e : Int) :
    ofDecimal negative c e ≠ nan := by
  unfold ofDecimal
  split_ifs
  · simp [signedZero]
  · simp
  · simp [signedZero]
  · exact ofQuotient_ne_nan _ _ _

theorem readQuantity_ne_nan (s : List Char) : (readQuantity s).1 ≠ .nan := by
  have hzero : (0 : Binary64) ≠ .nan := Binary64.ofQuotient_ne_nan _ _ _
  have hone : (1 : Binary64) ≠ .nan := Binary64.ofQuotient_ne_nan _ _ _
  unfold readQuantity
  split
  · exact hone
  · split
    · split
      · exact hzero
      · exact Binary64.ofDecimal_ne_nan _ _ _
    · exact hzero

/-- The item of a line with a price that is not too long is bounded. -/
theorem isSized_enteredItem {line : String} {n : Nat} (hn : Text.digitLimit ≤ n)
    (hlong : ¬ IsOverlong line) : (enteredItem line).IsSized n := by
  have hprice : Text.digitsValue (priceDigits line) < 10 ^ n :=
    (Text.digitsValue_lt_pow _).trans_le
      (Nat.pow_le_pow_right (by omega) ((not_lt.1 hlong).trans hn))
  unfold enteredItem Item.ofFields
  split_ifs
  · exact ⟨by positivity, Binary64.ofQuotient_ne_nan false 1 1⟩
  · exact ⟨hprice, readQuantity_ne_nan _⟩
  · exact ⟨hprice, readQuantity_ne_nan _⟩

/-! ## Stages -/

/-- Whether a text names no kind of document: one that is not empty, and whose letters are not those
of a kind. -/
def NamesNoKind (text : String) : Prop :=
  text ≠ "" ∧ ∀ k : DocumentKind, String.ofList (lowercase (Text.trim text.toList)) ≠ k.name

/-- Whether the amount of a line is asked for and its quantity is infinite. -/
def IsUncountable (line : String) : Prop :=
  (enteredItem line).category ≠ .welfareLevy ∧ ∃ s, (enteredItem line).quantity = .infinity s

/-- How a submission that asks for the kind `text` ends, by the first stage at which something is
wrong with it. -/
inductive Drafted (rates : Rates) (issuedOn : Date) (s : Submission) (text : String) :
    Except Error Draft → Prop where
  | unknownKind (hkind : NamesNoKind text) :
    Drafted rates issuedOn s text (.error (.rejected (.unknownKind text)))
  | overlong (hkind : ¬ NamesNoKind text) (hlong : ∃ line ∈ keptLines s.sheet, IsOverlong line) :
    Drafted rates issuedOn s text (.error (.fault .digitLimit))
  | noItems (hkind : ¬ NamesNoKind text) (hlong : ¬ ∃ line ∈ keptLines s.sheet, IsOverlong line)
    (hnone : keptLines s.sheet = []) : Drafted rates issuedOn s text (.error .noItems)
  | uncountable (hkind : ¬ NamesNoKind text)
    (hlong : ¬ ∃ line ∈ keptLines s.sheet, IsOverlong line) (hsome : keptLines s.sheet ≠ [])
    (hinfinite : ∃ line ∈ keptLines s.sheet, IsUncountable line) (cause : Fault)
    (hcause : cause = .infinite ∨ cause = .invalidOperation) :
    Drafted rates issuedOn s text (.error (.fault cause))
  | noCompany (hkind : ¬ NamesNoKind text)
    (hlong : ¬ ∃ line ∈ keptLines s.sheet, IsOverlong line) (hsome : keptLines s.sheet ≠ [])
    (hinfinite : ¬ ∃ line ∈ keptLines s.sheet, IsUncountable line)
    (hcompany : Text.strip s.clientCompany = "") :
    Drafted rates issuedOn s text (.error (.rejected .noCompany))
  | noPerson (hkind : ¬ NamesNoKind text)
    (hlong : ¬ ∃ line ∈ keptLines s.sheet, IsOverlong line) (hsome : keptLines s.sheet ≠ [])
    (hinfinite : ¬ ∃ line ∈ keptLines s.sheet, IsUncountable line)
    (hcompany : Text.strip s.clientCompany ≠ "") (hperson : Text.strip s.clientPerson = "") :
    Drafted rates issuedOn s text (.error (.rejected .noPerson))
  | complete (hkind : ¬ NamesNoKind text)
    (hlong : ¬ ∃ line ∈ keptLines s.sheet, IsOverlong line) (hsome : keptLines s.sheet ≠ [])
    (hinfinite : ¬ ∃ line ∈ keptLines s.sheet, IsUncountable line)
    (hcompany : Text.strip s.clientCompany ≠ "") (hperson : Text.strip s.clientPerson ≠ "")
    (draft : Draft) (hentries : price rates ((keptLines s.sheet).map enteredItem) = .ok draft.priced)
    (hclient : draft.clientCompany = Text.strip s.clientCompany ∧
      draft.clientPerson = Text.strip s.clientPerson) :
    Drafted rates issuedOn s text (.ok draft)

theorem ofText_of_namesNoKind {text : String} (h : NamesNoKind text) :
    DocumentKind.ofText text = .error (.rejected (.unknownKind text)) := by
  obtain ⟨hsome, hnames⟩ := h
  have hnone : DocumentKind.ofName? (String.ofList (lowercase (Text.trim text.toList))) = none := by
    simpa [DocumentKind.ofName?, List.find?_eq_none] using fun k _ => (hnames k).symm
  simp only [DocumentKind.ofText]
  rw [if_neg (by simpa using hsome), hnone]

theorem exists_ofText {text : String} (h : ¬ NamesNoKind text) :
    ∃ kind, DocumentKind.ofText text = .ok kind := by
  simp only [DocumentKind.ofText]
  by_cases hempty : text = ""
  · rw [if_pos (by simp [hempty])]
    exact ⟨.estimate, rfl⟩
  · obtain ⟨k, hk⟩ : ∃ k : DocumentKind,
        String.ofList (lowercase (Text.trim text.toList)) = k.name := by
      simpa [NamesNoKind, hempty] using h
    rw [if_neg (by simpa using hempty), hk, DocumentKind.ofName?_name]
    exact ⟨k, rfl⟩

theorem length_keptLines_le (text : String) :
    (keptLines text).length ≤ (Text.lines text).length := List.length_filter_le _ _

/-- The prices of a sheet that is read: they are found unless a quantity is infinite. -/
theorem price_keptLines_cases {rates : Rates} {text : String} (htax : rates.tax.IsSized 30000)
    (hwelfare : rates.welfare.IsSized 30000) (hlines : (Text.lines text).length ≤ 10 ^ 30000)
    (hlong : ∀ line ∈ keptLines text, ¬ IsOverlong line) :
    (∃ priced, price rates ((keptLines text).map enteredItem) = .ok priced ∧
      ∀ line ∈ keptLines text, ¬ IsUncountable line) ∨
    (∃ line ∈ keptLines text, IsUncountable line) ∧
      StopsAtInfinity (price rates ((keptLines text).map enteredItem)) := by
  have hsized : ∀ x ∈ (keptLines text).map enteredItem, x.IsSized 30000 := by
    intro x hx
    obtain ⟨line, hline, rfl⟩ := List.mem_map.1 hx
    exact isSized_enteredItem (by norm_num [Text.digitLimit]) (hlong line hline)
  obtain ⟨priced, hpriced⟩ | ⟨⟨x, hx, hcategory, hinfinite⟩, hstops⟩ :=
    price_cases (by norm_num) le_rfl htax hwelfare hsized
      (by rw [List.length_map]; exact (length_keptLines_le text).trans hlines)
  · refine .inl ⟨priced, hpriced, fun line hline ⟨hcategory, s, hs⟩ => ?_⟩
    obtain ⟨t, m, hm⟩ :=
      exists_finite_of_price hpriced (List.mem_map_of_mem hline) hcategory
    rw [hs] at hm
    cases hm
  · obtain ⟨line, hline, rfl⟩ := List.mem_map.1 hx
    exact .inr ⟨⟨line, hline, hcategory, hinfinite⟩, hstops⟩

/-- Priced items have entries. -/
theorem entries_ne_nil {rates : Rates} {items : List Item} {priced : Priced}
    (h : price rates items = .ok priced) (hsome : items ≠ []) : priced.entries ≠ [] := by
  obtain ⟨standard, derived, pricing⟩ := exists_pricing h
  have hlength := pricing.entries_forall₂.length_eq
  have hlengths := List.length_eq_length_filter_add (l := items) (·.category.isDerived)
  have := List.length_pos_iff.2 hsome
  rw [List.length_append, standardItems, derivedItems] at hlength
  exact List.ne_nil_of_length_pos (by omega)

/-- How a submission ends whose prices are found: its client is looked at. -/
theorem drafted_of_priced {rates : Rates} {issuedOn : Date} {s : Submission} {text : String}
    {kind : DocumentKind} {priced : Priced} (hnone : ¬ NamesNoKind text)
    (hlong : ¬ ∃ line ∈ keptLines s.sheet, IsOverlong line) (hsome : keptLines s.sheet ≠ [])
    (hinfinite : ¬ ∃ line ∈ keptLines s.sheet, IsUncountable line)
    (hprices : price rates ((keptLines s.sheet).map enteredItem) = .ok priced)
    (hcheck : s.draft rates issuedOn =
      Draft.check kind s.clientCompany s.clientPerson priced s.remarks issuedOn) :
    Drafted rates issuedOn s text (s.draft rates issuedOn) := by
  have hentries : priced.entries.isEmpty = false := by
    simpa using entries_ne_nil hprices (by simpa using hsome)
  simp only [Draft.check, hentries] at hcheck
  by_cases hcompany : Text.strip s.clientCompany = ""
  · rw [if_pos (by simp [hcompany])] at hcheck
    exact hcheck ▸ .noCompany hnone hlong hsome hinfinite hcompany
  rw [if_neg (by simpa using hcompany)] at hcheck
  by_cases hperson : Text.strip s.clientPerson = ""
  · rw [if_pos (by simp [hperson])] at hcheck
    exact hcheck ▸ .noPerson hnone hlong hsome hinfinite hcompany hperson
  rw [if_neg (by simpa using hperson)] at hcheck
  exact hcheck ▸ .complete hnone hlong hsome hinfinite hcompany hperson _ hprices ⟨rfl, rfl⟩

/-- How a submission ends, whatever it holds. -/
theorem drafted {rates : Rates} (issuedOn : Date) {s : Submission} {text : String}
    (hkind : s.kind = .str text) (hlines : (Text.lines s.sheet).length ≤ 10 ^ 30000)
    (htax : rates.tax.IsSized 30000) (hwelfare : rates.welfare.IsSized 30000) :
    Drafted rates issuedOn s text (s.draft rates issuedOn) := by
  have hvalue : DocumentKind.ofValue s.kind = DocumentKind.ofText text := by rw [hkind]; rfl
  by_cases hnone : NamesNoKind text
  · have hdraft : s.draft rates issuedOn = .error (.rejected (.unknownKind text)) := by
      rw [Submission.draft, hvalue, ofText_of_namesNoKind hnone]
      rfl
    exact hdraft ▸ .unknownKind hnone
  obtain ⟨kind, hkind⟩ := exists_ofText hnone
  rw [hkind] at hvalue
  by_cases hlong : ∃ line ∈ keptLines s.sheet, IsOverlong line
  · have hdraft : s.draft rates issuedOn = .error (.fault .digitLimit) := by
      rw [Submission.draft, hvalue, Item.ofSheet_eq_error hlong]
      rfl
    exact hdraft ▸ .overlong hnone hlong
  have hread : ∀ line ∈ keptLines s.sheet, ¬ IsOverlong line := by simpa using hlong
  have hitems := Item.ofSheet_eq_ok hread
  by_cases hsome : keptLines s.sheet = []
  · have hdraft : s.draft rates issuedOn = .error .noItems := by
      rw [Submission.draft, hvalue, hitems, hsome]
      rfl
    exact hdraft ▸ .noItems hnone hlong hsome
  have hpriced : s.draft rates issuedOn =
      Fault.lift (price rates ((keptLines s.sheet).map enteredItem)) >>= fun priced =>
        Draft.check kind s.clientCompany s.clientPerson priced s.remarks issuedOn := by
    have hempty : ((keptLines s.sheet).map enteredItem).isEmpty = false := by simpa using hsome
    rw [Submission.draft, hvalue, hitems]
    simp only [Fault.lift, Except.mapError, bind, Except.bind, hempty]
    rfl
  obtain ⟨priced, hprices, hfinite⟩ | ⟨hinfinite, hstops⟩ :=
    price_keptLines_cases htax hwelfare hlines hread
  · have hinfinite : ¬ ∃ line ∈ keptLines s.sheet, IsUncountable line := by simpa using hfinite
    have hcheck : s.draft rates issuedOn =
        Draft.check kind s.clientCompany s.clientPerson priced s.remarks issuedOn := by
      rw [hpriced, hprices]
      rfl
    exact drafted_of_priced hnone hlong hsome hinfinite hprices hcheck
  · have hdraft (cause : Fault) (h : price rates ((keptLines s.sheet).map enteredItem) =
        .error cause) : s.draft rates issuedOn = .error (.fault cause) := by
      rw [hpriced, h]
      rfl
    obtain hstops | hstops := hstops
    · exact hdraft _ hstops ▸ .uncountable hnone hlong hsome hinfinite _ (.inl rfl)
    · exact hdraft _ hstops ▸ .uncountable hnone hlong hsome hinfinite _ (.inr rfl)

theorem Fault.lift_eq_ok {β : Type} {x : Except Fault β} {b : β} : lift x = .ok b ↔ x = .ok b := by
  cases x <;> simp [lift, Except.mapError]

/-- What is drafted has gone through all stages. -/
theorem Submission.draft_eq_ok {rates : Rates} {issuedOn : Date} {s : Submission} {draft : Draft} :
    s.draft rates issuedOn = .ok draft ↔
      ∃ kind, DocumentKind.ofValue s.kind = .ok kind ∧
        ∃ items, Item.ofSheet s.sheet = .ok items ∧ items ≠ [] ∧
          ∃ priced, price rates items = .ok priced ∧
            Draft.check kind s.clientCompany s.clientPerson priced s.remarks issuedOn =
              .ok draft := by
  simp only [Submission.draft, bind_eq_ok, Fault.lift_eq_ok]
  refine exists_congr fun kind => and_congr_right fun _ => exists_congr fun items =>
    and_congr_right fun _ => ?_
  cases items with
  | nil =>
    refine iff_of_false ?_ (by simp)
    rintro ⟨⟩
  | cons x xs => simp [bind_eq_ok, Fault.lift_eq_ok]

/-- What is prepared is a draft that was issued. -/
theorem Office.exists_of_prepare {o : Office} {s : Submission} {doc : Document}
    (h : (o.prepare s).1 = .ok doc) :
    ∃ draft issuer, s.draft o.rates o.today = .ok draft ∧
      (o.issuerNow s.filler).1 = .ok issuer ∧ doc = draft.issue o.notes issuer := by
  unfold prepare at h
  cases hdraft : s.draft o.rates o.today with
  | error e =>
    rw [hdraft] at h
    cases h
  | ok draft =>
    cases hissuer : (o.issuerNow s.filler).1 with
    | error e =>
      simp only [hdraft, hissuer] at h
      cases h
    | ok issuer =>
      simp only [hdraft, hissuer] at h
      exact ⟨draft, issuer, rfl, rfl, (Except.ok.inj h).symm⟩

/-- An office with an issuer of its own prepares what it receives in the same stages, and issues
what is complete. -/
theorem exists_drafted_of_prepare {o : Office} {issuer : Issuer} {s : Submission} {text : String}
    (hissuer : o.issuer = some issuer) (hkind : s.kind = .str text)
    (hlines : (Text.lines s.sheet).length ≤ 10 ^ 6) (htax : o.rates.tax.IsSized 30000)
    (hwelfare : o.rates.welfare.IsSized 30000) :
    ∃ outcome, Drafted o.rates o.today s text outcome ∧
      (o.prepare s).1 = outcome.map fun draft => draft.issue o.notes issuer := by
  have hfew : (Text.lines s.sheet).length ≤ 10 ^ 30000 :=
    calc
      _ ≤ 10 ^ 6 := hlines
      _ ≤ 10 ^ 30000 := by gcongr <;> norm_num
  refine ⟨_, drafted o.today hkind hfew htax hwelfare, ?_⟩
  cases hdraft : s.draft o.rates o.today with
  | error e =>
    simp only [Office.prepare, hdraft]
    rfl
  | ok draft =>
    rw [o.prepare_of_draft s hdraft (by rw [Office.issuerNow, hissuer])]
    rfl

/-! ## A specimen -/

/-- An office with an issuer of its own and the usual settings. -/
def specimenOffice : Office where
  rates := {}
  notes := {}
  layout := .standard
  outputDirectory := "output"
  environment := []
  settings := {}
  issuer := some { companyName := .str "見本工業" }
  today := ⟨2025, 4, 1⟩
  canvas := .a4 fun _ => 0

/-- A submission whose kind is written in other letters. -/
def specimenSubmission : Submission where
  clientCompany := " 株式会社見本 "
  clientPerson := "佐藤"
  sheet := largeSheet
  kind := .str " Invoice"

theorem isSized_usualRates {n : Nat} (hn : 3 ≤ n) :
    ({} : Rates).tax.IsSized n ∧ ({} : Rates).welfare.IsSized n := by
  have hpow : 10 ^ 3 ≤ 10 ^ n := Nat.pow_le_pow_right (by norm_num) hn
  exact ⟨⟨false, 1, -1, rfl, by omega, by omega, by omega⟩,
    ⟨false, 165, -3, rfl, by omega, by omega, by omega⟩⟩

theorem exists_drafted_specimenSubmission :
    (Text.lines specimenSubmission.sheet).length ≤ 10 ^ 6 ∧
      ∃ outcome, Drafted {} ⟨2025, 4, 1⟩ specimenSubmission " Invoice" outcome ∧
        (specimenOffice.prepare specimenSubmission).1 =
          outcome.map fun draft => draft.issue {} { companyName := .str "見本工業" } := by
  have hlines : (Text.lines specimenSubmission.sheet).length ≤ 10 ^ 6 := by
    have : (Text.lines specimenSubmission.sheet).length = 2 := by cbv
    omega
  have hrates := isSized_usualRates (show 3 ≤ 30000 by norm_num)
  exact ⟨hlines, exists_drafted_of_prepare (o := specimenOffice) rfl rfl hlines hrates.1 hrates.2⟩

end Billing

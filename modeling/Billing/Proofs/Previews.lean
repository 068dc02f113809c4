import Billing.Proofs.Headings
import Billing.Proofs.PaintedTexts
import Billing.Proofs.Preparation
import Billing.Proofs.PrintedRows
import Billing.Service.Documents

/-!
# What a preview shows

A preview shows no text of its own but constants and digits (`not_mem_characters_documentJson`): all
other texts are painted when the document is printed. So a document that was printed without half a
character can be shown as well (`not_shows_of_print`), and its numbers can be sent
(`isSendable_documentJson`), as priced quantities are finite.
-/

namespace Billing

/-! ## Characters that stand for halves -/

namespace Text

theorem le_of_mem_absent {count : Nat} {used : List Char} {c : Char} (h : c ∈ absent count used) :
    firstFiller ≤ c.toNat := by
  obtain ⟨hc, -⟩ := List.mem_filter.1 (List.mem_of_mem_take h)
  obtain ⟨k, hk, rfl⟩ := List.mem_map.1 hc
  have hk : k < 0xA0000 := by
    rw [List.mem_range, fillerCount] at hk
    omega
  have hvalid : (firstFiller + k).isValidChar := .inr (by rw [firstFiller]; omega)
  have hcode : (Char.ofNat (firstFiller + k)).toNat = firstFiller + k := by
    rw [Char.ofNat, dif_pos hvalid]
    rfl
  omega

theorem isBlank_of_le {c : Char} (h : firstFiller ≤ c.toNat) : isBlank c = false := by
  unfold firstFiller at h
  simp only [isBlank, Bool.or_eq_false_iff, Bool.and_eq_false_iff, decide_eq_false_iff_not,
    beq_eq_false_iff_ne]
  omega

theorem ne_of_le {c d : Char} (hc : firstFiller ≤ c.toNat) (hd : d.toNat < firstFiller) :
    c ≠ d := by
  rintro rfl
  omega

theorem not_mem_of_le {c : Char} (hc : firstFiller ≤ c.toNat) {s : String}
    (hs : s.toList.all (·.toNat < firstFiller)) : c ∉ s.toList := by
  intro h
  have := List.all_eq_true.1 hs c h
  rw [decide_eq_true_eq] at this
  omega

theorem mem_trim_of_mem {c : Char} {s : List Char} (h : c ∈ s) (hc : isBlank c = false) :
    c ∈ trim s := by
  have hdrop {s : List Char} (h : c ∈ s) : c ∈ s.dropWhile isBlank := by
    rw [← List.takeWhile_append_dropWhile (p := isBlank) (l := s), List.mem_append] at h
    refine h.resolve_left fun hmem => ?_
    rw [List.mem_takeWhile_imp hmem] at hc
    cases hc
  exact List.mem_reverse.2 (hdrop (List.mem_reverse.2 (hdrop h)))

end Text

theorem Office.le_of_mem_filler {o : Office} {texts : List Text.Raw} {c : Char}
    (h : c ∈ o.filler? texts) : Text.firstFiller ≤ c.toNat :=
  Text.le_of_mem_absent (List.mem_of_mem_head? h)

/-! ## Entries -/

/-- Only the units of lump sums are left out where a quantity is printed. -/
theorem mem_quantityText {x : Entry} (hx : ¬ x.IsLumpSum) {c : Char} (hc : c ∈ x.unit.toList)
    (hblank : Text.isBlank c = false) : c ∈ (quantityText x).toList := by
  have hunit : ¬ (x.unit = lumpSumUnit ∨ x.unit = "%") := hx
  rw [quantityText, if_neg hunit, Text.strip, String.toList_ofList]
  exact Text.mem_trim_of_mem (by simp [hc]) hblank

theorem Item.isLumpSum_enteredItem {line : String}
    (h : (enteredItem line).category ≠ .standard) :
    (enteredItem line).unit = lumpSumUnit ∨ (enteredItem line).unit = "%" := by
  unfold enteredItem Item.ofFields at h ⊢
  split_ifs at h ⊢
  · exact .inl rfl
  · exact .inr rfl
  · exact absurd rfl h

/-- The entries of a sheet have finite quantities, and the derived ones are lump sums. -/
theorem entry_of_ofSheet {rates : Rates} {text : String} {items : List Item} {priced : Priced}
    (hitems : Item.ofSheet text = .ok items) (h : price rates items = .ok priced) {e : Entry}
    (he : e ∈ priced.entries) :
    e.quantity.isFinite ∧ (e.category ≠ .standard → e.IsLumpSum) := by
  obtain ⟨standard, derived, pricing⟩ := exists_pricing h
  obtain ⟨x, hx, yields⟩ := exists_of_mem_right pricing.entries_forall₂ he
  have hx : x ∈ items := by
    obtain hx | hx := List.mem_append.1 hx <;> exact (List.mem_filter.1 hx).1
  obtain ⟨rfl, -⟩ := Item.eq_map_of_ofSheet hitems
  obtain ⟨line, -, rfl⟩ := List.mem_map.1 hx
  have hfinite (hcategory : (enteredItem line).category ≠ .welfareLevy)
      (hquantity : e.quantity = (enteredItem line).quantity) : e.quantity.isFinite := by
    obtain ⟨s, m, hq⟩ := exists_finite_of_price h hx hcategory
    rw [hquantity, hq]
    rfl
  cases hcategory : (enteredItem line).category with
  | standard =>
    refine ⟨hfinite (by simp [hcategory]) (yields.of_standard hcategory).1, fun hderived => ?_⟩
    exact absurd (yields.category.trans hcategory) hderived
  | percentageSurcharge =>
    obtain ⟨hquantity, hunit, -⟩ := yields.of_surcharge hcategory
    refine ⟨hfinite (by simp [hcategory]) hquantity, fun _ => ?_⟩
    rw [Entry.IsLumpSum, hunit]
    exact Item.isLumpSum_enteredItem (by simp [hcategory])
  | welfareLevy =>
    obtain ⟨hquantity, hunit, -⟩ := yields.of_levy hcategory
    refine ⟨?_, fun _ => .inl hunit⟩
    rw [hquantity]
    decide

/-! ## Documents as they are shown -/

namespace Json

theorem mem_charactersOfItems {c : Char} {xs : List Json} :
    c ∈ charactersOfItems xs ↔ ∃ x ∈ xs, c ∈ x.characters := by
  induction xs with
  | nil => simp [charactersOfItems]
  | cons x xs ih => simp [charactersOfItems, ih]

theorem areSendable_eq_all (xs : List Json) : areSendable xs = xs.all isSendable := by
  induction xs with
  | nil => rfl
  | cons x xs ih => rw [areSendable, ih, List.all_cons]

end Json

namespace Service

variable {d : Document}

theorem isSendable_documentJson (h : ∀ x ∈ d.entries, x.quantity.isFinite) :
    (documentJson d).isSendable := by
  have hentries : Json.areSendable (d.entries.map entryJson) := by
    rw [Json.areSendable_eq_all, List.all_map, List.all_eq_true]
    intro x hx
    simp [entryJson, Json.isSendable, Json.areSendableMembers, Text.Raw.isWhole, h x hx]
  simp [documentJson, Json.isSendable, Json.areSendableMembers, Text.Raw.isWhole, hentries]

/-- The name of a file holds letters, digits, a point and an underscore. -/
theorem not_mem_fileName {c : Char} (hc : Text.firstFiller ≤ c.toNat) (kind : DocumentKind)
    (day : Date) : c ∉ (fileName kind day).toList := by
  have hdigit : c.isDigit = false := by
    cases h : c.isDigit with
    | false => rfl
    | true =>
      simp only [Char.isDigit, Bool.and_eq_true, decide_eq_true_eq] at h
      have : c.toNat ≤ 57 := h.2
      unfold Text.firstFiller at hc
      omega
  have hnumber (n : Nat) : c ∉ (toString n).toList := not_mem_toString_nat hdigit n
  have htwo (n : Nat) : c ∉ (Date.twoDigits n).toList := by
    rw [Date.twoDigits, String.toList_append, List.mem_append, not_or]
    refine ⟨?_, hnumber n⟩
    split <;> exact Text.not_mem_of_le hc (by decide)
  have hstart : c ∉ kind.filePrefix.toList := by
    cases kind <;> exact Text.not_mem_of_le hc (by decide)
  simp only [fileName, Date.compact, String.toList_append, List.mem_append, not_or]
  exact ⟨⟨⟨hstart, Text.not_mem_of_le hc (by decide)⟩, ⟨hnumber _, htwo _⟩, htwo _⟩,
    Text.not_mem_of_le hc (by decide)⟩

theorem not_mem_characters_entryJson {c : Char} (hc : Text.firstFiller ≤ c.toNat) {x : Entry}
    (hname : c ∉ x.name.toList) (hunit : c ∉ x.unit.toList) : c ∉ (entryJson x).characters := by
  have hcategory : c ∉ x.category.name.toList := by
    cases x.category <;> exact Text.not_mem_of_le hc (by decide)
  have hkey (s : String) (hs : s.toList.all (·.toNat < Text.firstFiller)) : c ∉ s.toList :=
    Text.not_mem_of_le hc hs
  simp (disch := decide) only [entryJson, Json.characters, Json.charactersOfMembers,
    Text.Raw.characters, List.mem_append, List.not_mem_nil, hkey, hname, hunit, hcategory, or_self,
    not_false_eq_true]

/-- What a document shows are the names and units of its entries, its remarks, constants and
digits. -/
theorem not_mem_characters_documentJson {c : Char} (hc : Text.firstFiller ≤ c.toNat)
    (hentries : ∀ x ∈ d.entries, c ∉ x.name.toList ∧ c ∉ x.unit.toList)
    (hremarks : c ∉ d.remarks.toList) : c ∉ (documentJson d).characters := by
  have hkind : c ∉ d.kind.name.toList := by
    cases d.kind <;> exact Text.not_mem_of_le hc (by decide)
  have hfile : c ∉ d.summary.fileName.toList := not_mem_fileName hc d.kind d.issuedOn
  have hitems : c ∉ Json.charactersOfItems (d.entries.map entryJson) := by
    rw [Json.mem_charactersOfItems]
    rintro ⟨_, hmem, h⟩
    obtain ⟨x, hx, rfl⟩ := List.mem_map.1 hmem
    exact not_mem_characters_entryJson hc (hentries x hx).1 (hentries x hx).2 h
  have hkey (s : String) (hs : s.toList.all (·.toNat < Text.firstFiller)) : c ∉ s.toList :=
    Text.not_mem_of_le hc hs
  simp (disch := decide) only [documentJson, Json.characters, Json.charactersOfMembers,
    Text.Raw.characters, List.mem_append, List.not_mem_nil, hkey, hkind, hitems, hremarks, hfile,
    or_self, not_false_eq_true]

end Service

/-! ## Printed documents -/

/-- A print stops at a fault, or because its file cannot be written; otherwise all of the document
was drawn, without half a character. -/
theorem Office.print_cases (o : Office) (filler : Option Char) (d : Document) :
    (∃ cause, o.print filler d = .error (.fault cause)) ∨
      (∃ reason, o.print filler d = .error (.unwritten reason)) ∨
      ∃ printout marks c, o.print filler d = .ok printout ∧
        d.render o.canvas.metrics o.layout = .ok (marks, c) ∧
        ¬ IsTorn filler (o.canvas.drawAll marks).1.calls ∧
        (o.canvas.drawAll marks).1.fault = none ∧
        printout.calls = (o.canvas.drawAll marks).1.calls ++ [.save] := by
  cases hrender : d.render o.canvas.metrics o.layout with
  | error cause =>
    rw [print, hrender]
    exact .inl ⟨_, rfl⟩
  | ok drawn =>
    obtain ⟨marks, c⟩ := drawn
    simp only [print, hrender, Except.mapError, bind, Except.bind, Canvas.finish,
      o.canvas.obstacle_drawAll marks]
    by_cases htorn : IsTorn filler (o.canvas.drawAll marks).1.calls
    · rw [if_pos (any_paints.2 htorn)]
      exact .inl ⟨_, rfl⟩
    rw [if_neg (mt any_paints.1 htorn)]
    cases hfault : (o.canvas.drawAll marks).1.fault with
    | some cause => exact .inl ⟨cause, rfl⟩
    | none =>
      cases hobstacle : o.canvas.obstacle with
      | some reason => exact .inr (.inl ⟨reason, rfl⟩)
      | none => exact .inr (.inr ⟨_, marks, c, rfl, rfl, htorn, hfault, rfl⟩)

theorem Office.exists_of_print {o : Office} {filler : Option Char} {d : Document}
    {printout : Printout} (h : o.print filler d = .ok printout) :
    ∃ marks c, d.render o.canvas.metrics o.layout = .ok (marks, c) ∧
      ¬ IsTorn filler (o.canvas.drawAll marks).1.calls ∧
      (o.canvas.drawAll marks).1.fault = none ∧
      printout.calls = (o.canvas.drawAll marks).1.calls ++ [.save] := by
  obtain ⟨cause, hprint⟩ | ⟨reason, hprint⟩ | ⟨_, marks, c, hprint, drawn⟩ :=
    o.print_cases filler d
  · cases hprint.symm.trans h
  · cases hprint.symm.trans h
  · obtain rfl := Except.ok.inj (hprint.symm.trans h)
    exact ⟨marks, c, drawn⟩

open Layout in
/-- A document that was printed without half a character can be shown. -/
theorem not_shows_of_print {o : Office} {filler : Option Char} {d : Document}
    {printout : Printout} (h : o.print filler d = .ok printout)
    (hfiller : ∀ c ∈ filler, Text.firstFiller ≤ c.toNat)
    (hderived : ∀ x ∈ d.entries, x.category ≠ .standard → x.IsLumpSum) :
    filler.any (Service.Content.json (Service.documentJson d)).shows = false := by
  obtain ⟨marks, c, hrender, hwhole, hfault, -⟩ := Office.exists_of_print h
  have written : IsWrittenOut d marks := isWrittenOut_of_render hrender
  cases filler with
  | none => rfl
  | some half =>
    have hcode := hfiller half rfl
    have hline : half ≠ '\n' := Text.ne_of_le hcode (by decide)
    -- what is written out is painted
    have habsent {s : String} (hs : WritesOut marks s) : half ∉ s.toList := fun hmem => by
      obtain ⟨m, hm, hwrites⟩ := hs half hmem hline
      exact hwhole ⟨half, rfl, o.canvas.exists_paints_of_drawAll hfault hm hwrites hline⟩
    have hunit : ∀ x ∈ d.entries, half ∉ x.unit.toList := by
      intro x hx hmem
      by_cases hlump : x.IsLumpSum
      · obtain hunit | hunit := hlump <;>
          exact Text.not_mem_of_le hcode (by rw [hunit]; decide) hmem
      · have hcategory : x.category = .standard := by
          by_contra hcategory
          exact hlump (hderived x hx hcategory)
        exact habsent (written.quantity x hx hcategory)
          (mem_quantityText hlump hmem (Text.isBlank_of_le hcode))
    have hshown : half ∉ (Service.documentJson d).characters :=
      Service.not_mem_characters_documentJson hcode
        (fun x hx => ⟨habsent (written.name x hx), hunit x hx⟩) (habsent written.remarks)
    simpa [Service.Content.shows] using hshown

end Billing

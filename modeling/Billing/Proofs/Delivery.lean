import Billing.Command.Run
import Billing.Proofs.EnteredLines
import Billing.Proofs.Folders
import Billing.Proofs.Generation

/-!
# How a run of the command ends

A run whose sheet is read and whose print can be put in its place ends as its submission does
(`Concluded`): the print is in its place and no other file is changed, or there is a message and no
file is changed. It is broken off without a message exactly if the sheet is no text or a fault stops
the submission.

* `Delivery.of_place`: what a delivery leaves behind.
* `concluded`: how a run ends.
* `run_of_overlong`: a price that is too long breaks a run off.
-/

namespace Billing

namespace Text

theorem unifyLineEnds_of_not_mem {s : List Char} (h : '\r' ∉ s) : unifyLineEnds s = s := by
  fun_induction unifyLineEnds s with
  | case1 s ih => simp at h
  | case2 s _ ih => simp at h
  | case3 c s _ _ ih =>
    rw [List.mem_cons, not_or] at h
    rw [ih h.2]
  | case4 => rfl

end Text

namespace Command

/-- What is submitted with the text of a sheet, with a character that stands for halves of
characters. -/
def Arguments.entered (o : Office) (a : Arguments) (text : String) : Submission :=
  { a.submission text with
    filler := o.filler? [a.company, a.person, text, a.remarks.getD ""] }

/-- The lines that are printed before a document is generated, perhaps with a warning. -/
def opening (a : Arguments) (warned : Bool) : List String :=
  ("処理中: " ++ a.sheet) :: if warned then [settingsWarning] else []

/-- Whether a delivery can be made in a folder, and not into the void. -/
def Delivery.IsPlaceable (d : Delivery) (folder : Folder) : Prop :=
  ∃ after, d.place folder = .ok after ∧ after.resolve d.path ≠ .ok voidPlace

/-- How a run ends that read a sheet with this content in a folder. -/
inductive Concluded (o : Office) (a : Arguments) (folder : Folder) (content : ByteArray) :
    Outcome → Prop where
  | notText (hnot : sheetText? content = none) :
    Concluded o a folder content ⟨[], .broken .notText, folder⟩
  | broken {text} (htext : sheetText? content = some text) {cause}
    (hgenerated : Generated o (a.entered o text) a.kind.name (.error (.fault cause))) {warned} :
    Concluded o a folder content ⟨opening a warned, .broken (.fault cause), folder⟩
  | refused {text} (htext : sheetText? content = some text) {e}
    (hgenerated : Generated o (a.entered o text) a.kind.name (.error e))
    (hshown : ∀ cause, e ≠ .fault cause) {warned message} :
    Concluded o a folder content ⟨opening a warned ++ [errorLine message], .exit 1, folder⟩
  | delivered {text} (htext : sheetText? content = some text) {printout summary}
    (hgenerated : Generated o (a.entered o text) a.kind.name (.ok (printout, summary)))
    {path after} (hpath : path = (deliver o a printout summary).path)
    (hholds : after.read path = .ok printout.file)
    (hothers : ∀ place, after.resolve path ≠ .ok place → after.file? place = folder.file? place)
    {warned lines} (hreport : report a summary path = .ok lines) :
    Concluded o a folder content ⟨opening a warned ++ lines, .exit 0, after⟩

/-- A delivery that was made is in its place, and no other file is changed. -/
theorem Delivery.of_place {d : Delivery} {folder after : Folder} (h : d.place folder = .ok after)
    (hvoid : after.resolve d.path ≠ .ok voidPlace) :
    after.read d.path = .ok d.content ∧
      ∀ place, after.resolve d.path ≠ .ok place → after.file? place = folder.file? place := by
  obtain ⟨prepared, hprepared, hwrite⟩ : ∃ prepared : Folder,
      prepared.files = folder.files ∧ prepared.write d.path d.content = .ok after := by
    unfold place at h
    cases hdirectory : d.directory with
    | none =>
      rw [hdirectory] at h
      exact ⟨folder, rfl, h⟩
    | some directory =>
      cases hmade : folder.makeDirectory directory with
      | error e =>
        rw [hdirectory] at h
        simp only [hmade] at h
        cases h
      | ok prepared =>
        rw [hdirectory] at h
        simp only [hmade] at h
        exact ⟨prepared, Folder.files_of_makeAlong hmade, h⟩
  have hresolve {target : Place} (htarget : prepared.resolve d.path = .ok target) :
      after.resolve d.path = .ok target := by
    obtain ⟨place, hplace, hdirectory, ⟨-, rfl⟩ | ⟨-, rfl⟩⟩ := Folder.exists_of_write hwrite
    · exact htarget
    · exact Folder.resolve_put hdirectory d.content htarget
  refine ⟨Folder.read_of_write hwrite (mt hresolve hvoid), fun place hother => ?_⟩
  rw [Folder.file?_of_write hwrite (mt hresolve hother), Folder.file?, Folder.file?, hprepared]

/-- A print can be put where its path leads to neither a directory nor a device. -/
theorem Delivery.isPlaceable_of_resolve {d : Delivery} {folder : Folder} {place : Place}
    (hnone : d.directory = none) (hplace : folder.resolve d.path = .ok place)
    (hdirectory : folder.isDirectory place = false) (hdevice : device? place = none) :
    d.IsPlaceable folder := by
  refine ⟨folder.put place d.content, ?_, ?_⟩
  · rw [Delivery.place, hnone]
    exact Folder.write_eq_put hplace hdirectory hdevice d.content
  · rw [Folder.resolve_put hdirectory d.content hplace]
    rintro ⟨⟩
    cases hdevice

theorem failure_of_shown (kind : DocumentKind) {e : Error} (h : ∀ cause, e ≠ .fault cause) :
    ∃ message, failure kind e = ([errorLine message], .exit 1) := by
  cases e with
  | fault cause => exact absurd rfl (h cause)
  | noItems | rejected | unwritten => exact ⟨_, rfl⟩

theorem report_of_isWritable (a : Arguments) {doc : Document} (h : doc.IsWritable) (path : String) :
    ∃ lines, report a doc.summary path = .ok lines := by
  have htotal : Number.groupedText doc.summary.grandTotal = .ok _ := if_pos h.grandTotal
  exact ⟨_, bind_eq_ok.2 ⟨_, bind_eq_ok.2 ⟨_, htotal, rfl⟩, rfl⟩⟩

section

variable {o : Office} {folder : Folder} {input : ByteArray} {words : List String} {a : Arguments}
  {content : ByteArray}

theorem produce_of_error {text : String} {e : Error} {warned : Bool}
    (htext : sheetText? content = some text)
    (hresult : o.generate (a.entered o text) = (.error e, warned)) :
    produce o a (.ok content) =
      ⟨opening a warned ++ (failure a.kind e).1, .error (failure a.kind e).2⟩ := by
  simp only [Arguments.entered, Arguments.submission] at hresult
  simp only [produce, htext, Arguments.submission, hresult]
  rfl

theorem produce_of_ok {text : String} {printout : Printout} {summary : Summary} {warned : Bool}
    (htext : sheetText? content = some text)
    (hresult : o.generate (a.entered o text) = (.ok (printout, summary), warned)) :
    produce o a (.ok content) = ⟨opening a warned, .ok (deliver o a printout summary)⟩ := by
  simp only [Arguments.entered, Arguments.submission] at hresult
  simp only [produce, htext, Arguments.submission, hresult]
  rfl

theorem run_of_error {printed : List String} {ending : Ending}
    (hread : Arguments.read words = .ok a)
    (hsheet : (if a.readsInput then .ok input else folder.read a.sheet) = .ok content)
    (hproduce : produce o a (.ok content) = ⟨printed, .error ending⟩) :
    run o folder input words = ⟨printed, ending, folder⟩ := by
  simp only [run, hread, hsheet, hproduce]

theorem run_of_ok {printed lines : List String} {delivery : Delivery} {after : Folder}
    (hread : Arguments.read words = .ok a)
    (hsheet : (if a.readsInput then .ok input else folder.read a.sheet) = .ok content)
    (hproduce : produce o a (.ok content) = ⟨printed, .ok delivery⟩)
    (hplace : delivery.place folder = .ok after) (hreport : delivery.report = .ok lines) :
    run o folder input words = ⟨printed ++ lines, .exit 0, after⟩ := by
  simp only [run, hread, hsheet, hproduce, hplace, hreport]

/-- Whether a run reads its arguments and its sheet, and can put a print in its place. No sheet that
fits into a memory has more lines. -/
structure IsSupplied (o : Office) (folder : Folder) (input : ByteArray) (words : List String)
    (a : Arguments) (content : ByteArray) : Prop where
  arguments : Arguments.read words = .ok a
  sheet : (if a.readsInput then .ok input else folder.read a.sheet) = .ok content
  lines : ∀ text, sheetText? content = some text → (Text.lines text).length ≤ 10 ^ 30000
  place : ∀ printout summary, summary.fileName = fileName a.kind o.today →
    (deliver o a printout summary).IsPlaceable folder

/-- A run ends in one of these ways. -/
theorem concluded (ready : o.IsReady) (supplied : IsSupplied o folder input words a content) :
    Concluded o a folder content (run o folder input words) := by
  obtain ⟨hread, hsheet, hlines, hplace⟩ := supplied
  cases htext : sheetText? content with
  | none =>
    have hproduce : produce o a (.ok content) = ⟨[], .error (.broken .notText)⟩ := by
      simp only [produce, htext]
    rw [run_of_error hread hsheet hproduce]
    exact .notText htext
  | some text =>
    have hgenerated :
        Generated o (a.entered o text) a.kind.name (o.generate (a.entered o text)).1 :=
      generated ready rfl (hlines text htext)
    rcases hresult : o.generate (a.entered o text) with ⟨e | ⟨printout, summary⟩, warned⟩
    · rw [hresult] at hgenerated
      rw [run_of_error hread hsheet (produce_of_error htext hresult)]
      by_cases hfault : ∃ cause, e = .fault cause
      · obtain ⟨cause, rfl⟩ := hfault
        simp only [failure, List.append_nil]
        exact .broken htext hgenerated
      · have hshown : ∀ cause, e ≠ .fault cause := by simpa using hfault
        obtain ⟨message, hmessage⟩ := failure_of_shown a.kind hshown
        rw [hmessage]
        exact .refused htext hgenerated hshown
    · rw [hresult] at hgenerated
      obtain ⟨hname, lines, hreport⟩ : summary.fileName = fileName a.kind o.today ∧
          ∃ lines, report a summary (deliver o a printout summary).path = .ok lines := by
        cases hgenerated with
        | complete _ hkind hdate _ hprint =>
          have hkind := Except.ok.inj ((DocumentKind.ofValue_name a.kind).symm.trans hkind)
          exact ⟨congrArg₂ fileName hkind.symm hdate, report_of_isWritable a hprint.isWritable _⟩
      obtain ⟨after, hafter, hvoid⟩ := hplace printout summary hname
      obtain ⟨hholds, hothers⟩ := Delivery.of_place hafter hvoid
      rw [run_of_ok hread hsheet (produce_of_ok htext hresult) hafter hreport]
      exact .delivered htext hgenerated rfl hholds hothers hreport

end

/-! ## Prices that are too long -/

theorem sheetText?_toUTF8 {text : String} (h : '\r' ∉ text.toList) :
    sheetText? text.toUTF8 = some text := by
  have hdecoded : String.fromUTF8? text.toUTF8 = some text := dif_pos text.isValidUTF8
  rw [sheetText?, hdecoded, Option.map_some, Text.unifyLineEnds_of_not_mem h, String.ofList_toList]

/-- A price that is longer than the numbers that are read breaks a run off, whatever else is on the
sheet. -/
theorem run_of_overlong {o : Office} {folder : Folder} {input : ByteArray} {words : List String}
    {a : Arguments} {content : ByteArray} {text : String} (hread : Arguments.read words = .ok a)
    (hsheet : (if a.readsInput then .ok input else folder.read a.sheet) = .ok content)
    (htext : sheetText? content = some text) (hlong : ∃ line ∈ keptLines text, IsOverlong line) :
    run o folder input words = ⟨opening a false, .broken (.fault .digitLimit), folder⟩ := by
  have hdraft : (a.entered o text).draft o.rates o.today = .error (.fault .digitLimit) := by
    have hkind : DocumentKind.ofValue (a.entered o text).kind = .ok a.kind :=
      DocumentKind.ofValue_name a.kind
    have hitems : Item.ofSheet (a.entered o text).sheet = .error .digitLimit :=
      Item.ofSheet_eq_error hlong
    rw [Submission.draft, hkind, hitems]
    rfl
  have hresult : o.generate (a.entered o text) = (.error (.fault .digitLimit), false) := by
    simp only [Office.generate, Office.prepare, hdraft]
    rfl
  exact run_of_error hread hsheet (produce_of_error htext hresult)

/-! ## A specimen -/

/-- A folder with a sheet in it. -/
def specimenFolder (sheet : String) : Folder where
  files := [(["items.txt"], sheet.toUTF8)]

/-- A command line that names the sheet. -/
def specimenWords : List String :=
  ["items.txt", "--company", "A", "--person", "B", "--output", "out.pdf"]

/-- What the command line gives. -/
def specimenArguments : Arguments where
  sheet := "items.txt"
  company := "A"
  person := "B"
  output := some "out.pdf"

theorem read_specimenWords : Arguments.read specimenWords = .ok specimenArguments := rfl

theorem resolve_specimenFolder (sheet : String) {name : String}
    (h : name ∈ ["items.txt", "out.pdf"]) : (specimenFolder sheet).resolve name = .ok [name] := by
  obtain ⟨hnull, hpath, hnames, hstart, hname⟩ : name.toList.contains '\x00' = false ∧
      ¬ Folder.pathLimit < (Text.normalizePath name).utf8ByteSize ∧ Folder.names name = [name] ∧
      Folder.start name = [] ∧ ¬ Folder.nameLimit < name.utf8ByteSize := by
    revert name
    decide +kernel
  have hup : name ≠ ".." := by
    rintro rfl
    exact absurd h (by decide)
  have hfile : (specimenFolder sheet).isFile [] = false := by
    simp [Folder.isFile, Folder.file?, specimenFolder, device?]
  rw [Folder.resolve, hnull, if_neg Bool.false_ne_true, if_neg hpath, hnames, hstart, Folder.walk,
    hfile, if_neg Bool.false_ne_true, if_neg hname]
  simp [Folder.isDirectory, Folder.walk, Folder.enter, hup]

theorem read_specimenFolder (sheet : String) :
    (specimenFolder sheet).read "items.txt" = .ok sheet.toUTF8 := by
  rw [Folder.read, resolve_specimenFolder sheet (by decide)]
  rfl

theorem isPlaceable_specimenFolder (o : Office) (sheet : String) (printout : Printout)
    (summary : Summary) :
    (deliver o specimenArguments printout summary).IsPlaceable (specimenFolder sheet) := by
  have hresolve : (specimenFolder sheet).resolve (Text.normalizePath "out.pdf") =
      .ok ["out.pdf"] := by
    have hpath : Text.normalizePath "out.pdf" = "out.pdf" := by decide +kernel
    rw [hpath]
    exact resolve_specimenFolder sheet (by decide)
  refine Delivery.isPlaceable_of_resolve rfl hresolve ?_ rfl
  simp [Folder.isDirectory, rootName, rootDirectories, specimenFolder]

/-- A line with a price of one digit more than are read. -/
def longLine : EnteredLine where
  name := ['看', '板']
  number :=
    { whole := ['1']
      fraction := none
      allDigits := List.all_eq_true.1 (by decide)
      ne_nil := by decide }
  unit := []
  price := List.replicate 4301 '1'
  name_not_blank := fun h => absurd (h '看' List.mem_cons_self) (by decide)
  name_isField := by decide
  name_not_levy := by decide
  name_not_surcharge := by decide
  unit_isField := by decide
  unit_head := by simp
  price_isDigit := by
    intro c hc
    rw [List.eq_of_mem_replicate hc]
    rfl

/-- A sheet of a line and one that enters an item. -/
def sheetOf (first : String) (l : EnteredLine) : String :=
  String.ofList (first.toList ++ '\n' :: (l.text.toList ++ ['\n']))

theorem mem_keptLines_sheetOf {first : String} (hfirst : '\n' ∉ first.toList) (l : EnteredLine) :
    l.text ∈ keptLines (sheetOf first l) := by
  refine mem_keptLines.2 ⟨?_, l.isKept⟩
  rw [Text.lines, Text.pieces, sheetOf, String.toList_ofList, Text.splitOn_append hfirst,
    Text.splitOn_append l.newline_not_mem]
  simp

theorem sheetText?_sheetOf {first : String} {l : EnteredLine} (hfirst : '\r' ∉ first.toList)
    (hline : '\r' ∉ l.text.toList) :
    sheetText? (sheetOf first l).toUTF8 = some (sheetOf first l) :=
  sheetText?_toUTF8 (by simp [sheetOf, hfirst, hline])

/-- A sheet with that line below one with nothing wrong. -/
def longSheet : String := sheetOf "コーン標識, 10, 3500" longLine

theorem run_broken_longSheet :
    Arguments.read specimenWords = .ok specimenArguments ∧
      (specimenFolder longSheet).read "items.txt" = .ok longSheet.toUTF8 ∧
      (∀ printout summary, (deliver plainOffice specimenArguments printout summary).IsPlaceable
        (specimenFolder longSheet)) ∧
      run plainOffice (specimenFolder longSheet) .empty specimenWords =
        ⟨["処理中: items.txt"], .broken (.fault .digitLimit), specimenFolder longSheet⟩ := by
  refine ⟨read_specimenWords, read_specimenFolder _, isPlaceable_specimenFolder _ _, ?_⟩
  have hreturn : '\r' ∉ longLine.text.toList :=
    longLine.not_mem_text (by decide) (by decide) (by decide) (by decide)
  have hlength : longLine.price.length = 4301 := List.length_replicate
  have hlong : IsOverlong longLine.text := longLine.isOverlong_iff.2 (by rw [hlength]; decide)
  exact run_of_overlong read_specimenWords (read_specimenFolder _)
    (sheetText?_sheetOf (by decide) hreturn) ⟨_, mem_keptLines_sheetOf (by decide) longLine, hlong⟩

end Command

end Billing

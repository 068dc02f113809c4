import Billing.Proofs.Drawing.Closing
import Billing.Proofs.Lengths

/-!
# The loops that divide names and remarks

A name is divided into row segments, and remarks into boxes, by a loop while lines are left. A pass
may start a new page and take no line (`rowPass`, `boxPass`). The next one takes a line then, since
the place is right below a header band, or at the top of a page: that is what the number of passes
counts (`RowState.passes`, `BoxState.passes`).

* `runPasses_eq`: a loop whose passes count down ends with what they lead to.
* `runPasses_row`, `runPasses_box`: from every state the loop ends, within two passes a line, with
  what `drawSegments` and `drawBoxes` draw.
-/

namespace Billing.Layout

open Coordinate

/-- The state in which a loop ends while `more` holds, or the fault of one of its passes; nothing if
it takes more passes than `n`. -/
def runPasses {σ : Type} (more : σ → Bool) (pass : σ → Except Fault σ) :
    Nat → σ → Option (Except Fault σ)
  | 0, s => if more s then none else some (.ok s)
  | n + 1, s =>
    if more s then
      match pass s with
      | .ok s => runPasses more pass n s
      | .error cause => some (.error cause)
    else some (.ok s)

/-- A loop ends within a number of passes that is counted down by each of them, and with the outcome
that none of them changes. -/
theorem runPasses_eq {σ β : Type} {more : σ → Bool} {pass : σ → Except Fault σ} {passes : σ → Nat}
    {drawn : σ → β} {outcome : σ → Except Fault β}
    (done : ∀ s, more s = false → outcome s = .ok (drawn s))
    (step : ∀ s, more s → outcome s = pass s >>= outcome)
    (pos : ∀ s, more s → 0 < passes s)
    (less : ∀ s s', more s → pass s = .ok s' → passes s' < passes s)
    {s : σ} {n : Nat} (enough : passes s ≤ n) :
    (runPasses more pass n s).map (·.map drawn) = some (outcome s) := by
  induction n generalizing s with
  | zero =>
    have hmore : more s = false := by
      by_contra h
      have := pos s (by simpa using h)
      omega
    simp [runPasses, hmore, done s hmore, Except.map]
  | succ n ih =>
    cases hmore : more s with
    | false => simp [runPasses, hmore, done s hmore, Except.map]
    | true =>
      rw [step s hmore, runPasses, if_pos hmore]
      cases hpass : pass s with
      | error => rfl
      | ok s' =>
        have := less s s' hmore hpass
        exact ih (by omega)

/-- A segment or a box takes a line. -/
theorem length_drop_capacity_lt {lines : List String} (left : lines ≠ []) (count : Int) :
    (lines.drop (capacity count)).length < lines.length := by
  have := List.length_pos_iff.2 left
  simp only [List.length_drop, capacity]
  omega

variable {α : Type} [Coordinate α]

/-! ## Row segments -/

/-- The state of the loop over the lines of a name. -/
structure RowState (α : Type) where
  /-- What has been drawn. -/
  marks : List (Mark α)
  /-- The lines that are left. -/
  lines : List String
  place : Cursor α
  /-- Whether the place is right below a header band. -/
  fresh : Bool
  /-- Whether no line has been drawn yet. -/
  isFirst : Bool

namespace RowState

def more (s : RowState α) : Bool := !s.lines.isEmpty

/-- What was drawn, and where it ends. -/
def drawn (s : RowState α) : List (Mark α) × Cursor α := (s.marks, s.place)

/-- The number of passes that are left: two a line, and one less if no page will be started for the
first of them. -/
def passes (s : RowState α) : Nat := 2 * s.lines.length - s.fresh.toNat

omit [Coordinate α] in
theorem more_iff {s : RowState α} : s.more ↔ s.lines ≠ [] := by simp [more]

/-- Whether the lines that are left do not fit at the place. -/
def isTooHigh (p : LayoutParams α) (lineHeight : α) (s : RowState α) : Bool :=
  lt (p.rowBottom - s.place.y) (p.rowHeight (ofCount s.lines.length * lineHeight)) && !s.fresh

/-- The state after a new page with a header band. -/
def onNewPage (p : LayoutParams α) (s : RowState α) : RowState α :=
  let (marks, c) := continueTable p s.place
  { s with marks := s.marks ++ marks, place := c, fresh := true }

end RowState

/-- The pass that draws a row segment. -/
def segmentPass (p : LayoutParams α) (x : Entry) (lineHeight : α) (s : RowState α) :
    Except Fault (RowState α) := do
  let count ← floorQuotient (p.rowBottom - s.place.y - p.rowPadding) lineHeight
  let chunk := s.lines.take (capacity count)
  let rest := s.lines.drop (capacity count)
  let height := p.rowHeight (ofCount chunk.length * lineHeight)
  let name := if s.isFirst && rest.isEmpty then x.name else Text.unlines chunk
  let segment ← segmentMarks p x name s.place.y height s.isFirst
  return { marks := s.marks ++ segment, lines := rest, place := s.place.advance height
           fresh := false, isFirst := false }

/-- A pass of the loop over the lines of a name. -/
def rowPass (p : LayoutParams α) (x : Entry) (lineHeight : α) (s : RowState α) :
    Except Fault (RowState α) :=
  if s.isTooHigh p lineHeight then .ok (s.onNewPage p) else segmentPass p x lineHeight s

/-- What has been drawn, and after it what is drawn for the lines that are left. -/
def rowOutcome (p : LayoutParams α) (x : Entry) (lineHeight : α) (s : RowState α) :
    Except Fault (List (Mark α) × Cursor α) :=
  (drawSegments p x lineHeight s.lines s.place s.fresh s.isFirst).map fun (marks, c) =>
    (s.marks ++ marks, c)

section Row

variable {p : LayoutParams α} {x : Entry} {lineHeight : α}

/-- The next segment at a place, and what follows it. -/
def drawNextSegment (p : LayoutParams α) (x : Entry) (lineHeight : α) (lines : List String)
    (broken : List (Mark α)) (c : Cursor α) (isFirst : Bool) :
    Except Fault (List (Mark α) × Cursor α) := do
  let count ← floorQuotient (p.rowBottom - c.y - p.rowPadding) lineHeight
  let chunk := lines.take (capacity count)
  let rest := lines.drop (capacity count)
  let height := p.rowHeight (ofCount chunk.length * lineHeight)
  let name := if isFirst && rest.isEmpty then x.name else Text.unlines chunk
  let segment ← segmentMarks p x name c.y height isFirst
  let (marks, c) ← drawSegments p x lineHeight rest (c.advance height) false false
  return (broken ++ segment ++ marks, c)

theorem drawSegments_eq {lines : List String} (left : lines ≠ []) (c : Cursor α)
    (fresh isFirst : Bool) :
    drawSegments p x lineHeight lines c fresh isFirst =
      if lt (p.rowBottom - c.y) (p.rowHeight (ofCount lines.length * lineHeight)) && !fresh then
        drawNextSegment p x lineHeight lines (continueTable p c).1 (continueTable p c).2 isFirst
      else drawNextSegment p x lineHeight lines [] c isFirst := by
  rw [drawSegments, dif_neg left]
  dsimp only
  generalize (lt (p.rowBottom - c.y) _ && !fresh) = tooHigh
  cases tooHigh <;> rfl

theorem drawNextSegment_append (lines : List String) (above broken : List (Mark α)) (c : Cursor α)
    (isFirst : Bool) :
    drawNextSegment p x lineHeight lines (above ++ broken) c isFirst =
      (drawNextSegment p x lineHeight lines broken c isFirst).map fun (marks, c) =>
        (above ++ marks, c) := by
  simp only [drawNextSegment]
  cases floorQuotient (p.rowBottom - c.y - p.rowPadding) lineHeight with
  | error => rfl
  | ok count =>
    simp only [bind, Except.bind]
    generalize segmentMarks p x _ _ _ _ = segment
    cases segment with
    | error => rfl
    | ok segment =>
      dsimp only
      generalize drawSegments p x lineHeight _ _ _ _ = rest
      cases rest with
      | error => rfl
      | ok rest => simp [Except.map, pure, Except.pure]

theorem rowOutcome_of_not_more {s : RowState α} (h : s.more = false) :
    rowOutcome p x lineHeight s = .ok s.drawn := by
  have hnil : s.lines = [] := by simpa [RowState.more] using h
  rw [rowOutcome, hnil, drawSegments, dif_pos rfl]
  simp [Except.map, RowState.drawn]

/-- What is drawn from a place where the lines fit. -/
theorem rowOutcome_eq_drawNextSegment {s : RowState α} (left : s.lines ≠ [])
    (fits : s.isTooHigh p lineHeight = false) :
    rowOutcome p x lineHeight s =
      drawNextSegment p x lineHeight s.lines s.marks s.place s.isFirst := by
  rw [RowState.isTooHigh] at fits
  rw [rowOutcome, drawSegments_eq left, fits, if_neg Bool.false_ne_true,
    ← drawNextSegment_append, List.append_nil]

theorem rowOutcome_onNewPage {s : RowState α} (left : s.lines ≠ [])
    (tooHigh : s.isTooHigh p lineHeight) :
    rowOutcome p x lineHeight s = rowOutcome p x lineHeight (s.onNewPage p) := by
  rw [rowOutcome_eq_drawNextSegment (s := s.onNewPage p) left
    (by simp [RowState.isTooHigh, RowState.onNewPage])]
  rw [RowState.isTooHigh] at tooHigh
  rw [rowOutcome, drawSegments_eq left, tooHigh, if_pos rfl, ← drawNextSegment_append]
  rfl

theorem drawNextSegment_eq_bind (s : RowState α) :
    drawNextSegment p x lineHeight s.lines s.marks s.place s.isFirst =
      segmentPass p x lineHeight s >>= rowOutcome p x lineHeight := by
  simp only [drawNextSegment, segmentPass]
  cases floorQuotient (p.rowBottom - s.place.y - p.rowPadding) lineHeight with
  | error => rfl
  | ok count =>
    simp only [bind, Except.bind]
    generalize segmentMarks p x _ _ _ _ = segment
    cases segment <;> rfl

theorem rowOutcome_eq_bind {s : RowState α} (h : s.more) :
    rowOutcome p x lineHeight s = rowPass p x lineHeight s >>= rowOutcome p x lineHeight := by
  have left := RowState.more_iff.1 h
  rw [rowPass]
  cases hfits : s.isTooHigh p lineHeight with
  | true => exact rowOutcome_onNewPage left hfits
  | false =>
    rw [if_neg Bool.false_ne_true, rowOutcome_eq_drawNextSegment left hfits]
    exact drawNextSegment_eq_bind s

omit [Coordinate α] in
theorem RowState.passes_pos {s : RowState α} (h : s.more) : 0 < s.passes := by
  have := List.length_pos_iff.2 (RowState.more_iff.1 h)
  have := Bool.toNat_le s.fresh
  unfold passes
  omega

theorem passes_lt_of_rowPass {s s' : RowState α} (h : s.more)
    (hpass : rowPass p x lineHeight s = .ok s') : s'.passes < s.passes := by
  have left := RowState.more_iff.1 h
  have hlength := List.length_pos_iff.2 left
  rw [rowPass] at hpass
  split at hpass
  · -- a new page is not started twice
    rename_i tooHigh
    obtain rfl := Except.ok.inj hpass
    have hfresh : s.fresh = false := by simp_all [RowState.isTooHigh]
    simp only [RowState.passes, RowState.onNewPage, hfresh, Bool.toNat_true, Bool.toNat_false]
    omega
  · -- a segment takes a line
    simp only [segmentPass, bind_eq_ok, pure_eq_ok] at hpass
    obtain ⟨count, -, _, -, rfl⟩ := hpass
    have hless := length_drop_capacity_lt left count
    have := Bool.toNat_le s.fresh
    simp only [RowState.passes, Bool.toNat_false]
    omega

theorem runPasses_row (s : RowState α) :
    (runPasses RowState.more (rowPass p x lineHeight) (2 * s.lines.length) s).map
      (·.map RowState.drawn) = some (rowOutcome p x lineHeight s) :=
  runPasses_eq (fun _ => rowOutcome_of_not_more) (fun _ => rowOutcome_eq_bind)
    (fun _ => RowState.passes_pos) (fun _ _ => passes_lt_of_rowPass) (Nat.sub_le ..)

end Row

/-! ## Boxes of remarks -/

/-- The state of the loop over the lines of the remarks. -/
structure BoxState (α : Type) where
  /-- What has been drawn. -/
  marks : List (Mark α)
  /-- The lines that are left. -/
  lines : List String
  place : Cursor α
  /-- Whether no line has been drawn yet. -/
  isFirst : Bool

namespace BoxState

def more (s : BoxState α) : Bool := !s.lines.isEmpty

/-- What was drawn, and where it ends. -/
def drawn (s : BoxState α) : List (Mark α) × Cursor α := (s.marks, s.place)

/-- The number of passes that are left: two a line, and one less if no page will be started for the
first of them, as the place is at the top of a page or above it. -/
def passes (p : LayoutParams α) (s : BoxState α) : Nat :=
  2 * s.lines.length - (!lt p.pageTop s.place.y).toNat

omit [Coordinate α] in
theorem more_iff {s : BoxState α} : s.more ↔ s.lines ≠ [] := by simp [more]

/-- The state after a new page. -/
def onNewPage (p : LayoutParams α) (s : BoxState α) : BoxState α :=
  { s with marks := s.marks ++ [.newPage], place := s.place.nextPage p.pageTop }

/-- The state after the box for which there is room for `count` lines, and after a new page if lines
are left. -/
def afterBox (p : LayoutParams α) (style : TextStyle α) (whole : String) (lineHeight : α)
    (count : Int) (s : BoxState α) : BoxState α :=
  let box := nextBox p style whole lineHeight s.lines s.place.y s.isFirst count
  let next : BoxState α :=
    { marks := s.marks ++ boxMarks p style box.title box.text s.place.y box.height
      lines := s.lines.drop (capacity count)
      place := s.place.advance box.height
      isFirst := false }
  if next.lines.isEmpty then next else next.onNewPage p

end BoxState

/-- A pass of the loop over the lines of the remarks. -/
def boxPass (p : LayoutParams α) (style : TextStyle α) (whole : String) (lineHeight : α)
    (s : BoxState α) : Except Fault (BoxState α) := do
  let count ← floorQuotient (p.blockBottom - s.place.y - pt 25) lineHeight
  if count < 1 && lt p.pageTop s.place.y then return s.onNewPage p
  else return s.afterBox p style whole lineHeight count

/-- What has been drawn, and after it what is drawn for the lines that are left. -/
def boxOutcome (p : LayoutParams α) (style : TextStyle α) (whole : String) (lineHeight : α)
    (s : BoxState α) : Except Fault (List (Mark α) × Cursor α) :=
  (drawBoxes p style whole lineHeight s.lines s.place s.isFirst).map fun (marks, c) =>
    (s.marks ++ marks, c)

section Box

variable {p : LayoutParams α} {style : TextStyle α} {whole : String} {lineHeight : α}

/-- The next box at a place, and what follows it. -/
def drawNextBox (p : LayoutParams α) (style : TextStyle α) (whole : String) (lineHeight : α)
    (lines : List String) (broken : List (Mark α)) (c : Cursor α) (isFirst : Bool) :
    Except Fault (List (Mark α) × Cursor α) := do
  let count ← floorQuotient (p.blockBottom - c.y - pt 25) lineHeight
  let chunk := lines.take (capacity count)
  let rest := lines.drop (capacity count)
  let text := if isFirst && rest.isEmpty then whole else Text.unlines chunk
  let height := greater (ofCount chunk.length * lineHeight + pt 25)
    (smaller p.remarksBoxHeight (p.blockBottom - c.y))
  let box := boxMarks p style (if isFirst then remarksTitle else continuedTitle) text c.y height
  let below := c.advance height
  let (next, below) : List (Mark α) × Cursor α :=
    if rest.isEmpty then ([], below) else ([.newPage], below.nextPage p.pageTop)
  let (marks, c) ← drawBoxes p style whole lineHeight rest below false
  return (broken ++ box ++ next ++ marks, c)

theorem drawBoxes_eq {lines : List String} (left : lines ≠ []) (c : Cursor α) (isFirst : Bool) :
    drawBoxes p style whole lineHeight lines c isFirst =
      floorQuotient (p.blockBottom - c.y - pt 25) lineHeight >>= fun count =>
        if count < 1 && lt p.pageTop c.y then
          drawNextBox p style whole lineHeight lines [.newPage] (c.nextPage p.pageTop) isFirst
        else drawNextBox p style whole lineHeight lines [] c isFirst := by
  rw [drawBoxes, dif_neg left]
  refine congrArg _ (funext fun count => ?_)
  dsimp only
  generalize (decide (count < 1) && lt p.pageTop c.y) = tooLow
  cases tooLow <;> rfl

theorem drawNextBox_append (lines : List String) (above broken : List (Mark α)) (c : Cursor α)
    (isFirst : Bool) :
    drawNextBox p style whole lineHeight lines (above ++ broken) c isFirst =
      (drawNextBox p style whole lineHeight lines broken c isFirst).map fun (marks, c) =>
        (above ++ marks, c) := by
  simp only [drawNextBox]
  cases floorQuotient (p.blockBottom - c.y - pt 25) lineHeight with
  | error => rfl
  | ok count =>
    simp only [bind, Except.bind]
    generalize drawBoxes p style whole lineHeight _ _ _ = rest
    cases rest with
    | error => rfl
    | ok rest => simp [Except.map, pure, Except.pure]

theorem boxOutcome_of_not_more {s : BoxState α} (h : s.more = false) :
    boxOutcome p style whole lineHeight s = .ok s.drawn := by
  have hnil : s.lines = [] := by simpa [BoxState.more] using h
  rw [boxOutcome, hnil, drawBoxes, dif_pos rfl]
  simp [Except.map, BoxState.drawn]

theorem boxOutcome_eq {s : BoxState α} (left : s.lines ≠ []) :
    boxOutcome p style whole lineHeight s =
      floorQuotient (p.blockBottom - s.place.y - pt 25) lineHeight >>= fun count =>
        if count < 1 && lt p.pageTop s.place.y then
          drawNextBox p style whole lineHeight s.lines (s.marks ++ [.newPage])
            (s.place.nextPage p.pageTop) s.isFirst
        else drawNextBox p style whole lineHeight s.lines s.marks s.place s.isFirst := by
  rw [boxOutcome, drawBoxes_eq left, drawNextBox_append, ← s.marks.append_nil, drawNextBox_append,
    s.marks.append_nil]
  cases floorQuotient (p.blockBottom - s.place.y - pt 25) lineHeight with
  | error => rfl
  | ok count => exact apply_ite _ _ _ _

/-- What is drawn at the top of a page. -/
theorem boxOutcome_eq_drawNextBox {s : BoxState α} (left : s.lines ≠ [])
    (top : lt p.pageTop s.place.y = false) :
    boxOutcome p style whole lineHeight s =
      drawNextBox p style whole lineHeight s.lines s.marks s.place s.isFirst := by
  simp only [boxOutcome_eq left, top, Bool.and_false, Bool.false_eq_true, ↓reduceIte]
  simp only [drawNextBox]
  cases floorQuotient (p.blockBottom - s.place.y - pt 25) lineHeight <;> rfl

theorem drawNextBox_eq_afterBox {s : BoxState α} {count : Int}
    (room : floorQuotient (p.blockBottom - s.place.y - pt 25) lineHeight = .ok count) :
    drawNextBox p style whole lineHeight s.lines s.marks s.place s.isFirst =
      boxOutcome p style whole lineHeight (s.afterBox p style whole lineHeight count) := by
  simp only [drawNextBox, room, bind, Except.bind, boxOutcome, BoxState.afterBox, nextBox]
  cases hrest : (s.lines.drop (capacity count)).isEmpty with
  | true =>
    simp only [↓reduceIte]
    generalize drawBoxes p style whole lineHeight _ _ _ = rest
    cases rest <;> simp [Except.map, pure, Except.pure]
  | false =>
    simp only [Bool.false_eq_true, ↓reduceIte, BoxState.onNewPage]
    generalize drawBoxes p style whole lineHeight _ _ _ = rest
    cases rest <;> simp [Except.map, pure, Except.pure]

theorem boxOutcome_eq_bind [StrictCoordinate α] {s : BoxState α} (h : s.more) :
    boxOutcome p style whole lineHeight s =
      boxPass p style whole lineHeight s >>= boxOutcome p style whole lineHeight := by
  have left := BoxState.more_iff.1 h
  have htop : boxOutcome p style whole lineHeight (s.onNewPage p) =
      drawNextBox p style whole lineHeight s.lines (s.marks ++ [.newPage])
        (s.place.nextPage p.pageTop) s.isFirst :=
    boxOutcome_eq_drawNextBox (s := s.onNewPage p) left (StrictCoordinate.lt_self p.pageTop)
  rw [boxOutcome_eq left, boxPass]
  cases room : floorQuotient (p.blockBottom - s.place.y - pt 25) lineHeight with
  | error => rfl
  | ok count =>
    simp only [bind, Except.bind, ← htop, drawNextBox_eq_afterBox room]
    split <;> rfl

theorem BoxState.passes_pos {s : BoxState α} (h : s.more) : 0 < s.passes p := by
  have := List.length_pos_iff.2 (BoxState.more_iff.1 h)
  have := Bool.toNat_le (!lt p.pageTop s.place.y)
  unfold passes
  omega

theorem passes_lt_of_boxPass [StrictCoordinate α] {s s' : BoxState α} (h : s.more)
    (hpass : boxPass p style whole lineHeight s = .ok s') : s'.passes p < s.passes p := by
  have left := BoxState.more_iff.1 h
  have hlength := List.length_pos_iff.2 left
  simp only [boxPass, bind_eq_ok] at hpass
  obtain ⟨count, -, hpass⟩ := hpass
  split at hpass
  · -- a new page is not started at the top of a page
    rename_i tooLow
    obtain rfl := pure_eq_ok.1 hpass
    have hlow : lt p.pageTop s.place.y := (Bool.and_eq_true_iff.1 tooLow).2
    simp only [BoxState.passes, BoxState.onNewPage, Cursor.nextPage, hlow,
      StrictCoordinate.lt_self, Bool.not_true, Bool.not_false, Bool.toNat_true, Bool.toNat_false]
    omega
  · -- a box takes a line
    obtain rfl := pure_eq_ok.1 hpass
    have hless := length_drop_capacity_lt left count
    have hlines : (s.afterBox p style whole lineHeight count).lines =
        s.lines.drop (capacity count) := by
      unfold BoxState.afterBox
      dsimp only
      split <;> rfl
    have := Bool.toNat_le (!lt p.pageTop s.place.y)
    rw [BoxState.passes, BoxState.passes, hlines]
    omega

theorem runPasses_box [StrictCoordinate α] (s : BoxState α) :
    (runPasses BoxState.more (boxPass p style whole lineHeight) (2 * s.lines.length) s).map
      (·.map BoxState.drawn) = some (boxOutcome p style whole lineHeight s) :=
  runPasses_eq (fun _ => boxOutcome_of_not_more) (fun _ => boxOutcome_eq_bind)
    (fun _ => BoxState.passes_pos) (fun _ _ => passes_lt_of_boxPass) (Nat.sub_le ..)

end Box

end Billing.Layout

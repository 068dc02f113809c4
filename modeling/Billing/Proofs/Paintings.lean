import Billing.Canvas.Step
import Mathlib.Data.List.Forall2

/-!
# How marks are painted

A printer keeps the state of its pen from call to call, and every operation of a canvas sets only
the part of it that its own calls read. What a call paints is shown by a `Painting`: the attributes
of the pen that the call reads. Whatever was drawn before, on this page or an earlier one, and
wherever an operation was stopped, an operation paints what it asks for (`CanvasStep.paintings`),
and leaves as many kept pens behind as it found.

* `Canvas.repaints_draw`: the calls for a mark, from any state.
* `paintings_of_performAll`: the calls of any operations, one after the other.
-/

namespace Billing

variable {α : Type}

/-- A colour by its code, with an opacity unless it is opaque. -/
abbrev Ink (α : Type) := Nat × Option α

/-- What a call paints, with the attributes of the pen that show in it. -/
inductive Painting (α : Type) where
  | text (content : String) (font : Option (String × α)) (ink : Ink α)
  | line (ink : Ink α) (width : Option α)
  /-- An area with its edge, each if it is painted. -/
  | rect (fill : Option (Ink α)) (edge : Option (Ink α × Option α))
  | circle (fill : Option (Ink α)) (edge : Option (Ink α × Option α))

namespace Pen

/-- What a call paints with a pen, if it paints. -/
def painting? (pen : Pen α) : Call α → Option (Painting α)
  | .drawString _ _ _ content => some (.text content pen.font pen.fillColor)
  | .line .. => some (.line pen.strokeColor pen.lineWidth)
  | .rect _ _ _ _ fill stroke =>
    some (.rect (if fill then some pen.fillColor else none)
      (if stroke then some (pen.strokeColor, pen.lineWidth) else none))
  | .circle _ _ _ fill stroke =>
    some (.circle (if fill then some pen.fillColor else none)
      (if stroke then some (pen.strokeColor, pen.lineWidth) else none))
  | _ => none

/-- What calls paint, each with the pen it was carried out with. -/
def paintings (part : List (Call α × Pen α)) : List (Painting α) :=
  part.filterMap fun (call, pen) => pen.painting? call

@[simp] theorem run_nil (state : Pen α × List (Pen α)) : run state [] = ([], state) := rfl

@[simp] theorem run_cons (state : Pen α × List (Pen α)) (call : Call α) (calls : List (Call α)) :
    run state (call :: calls) =
      ((call, state.1) :: (run (step state call) calls).1, (run (step state call) calls).2) := rfl

@[simp] theorem paintings_nil : paintings ([] : List (Call α × Pen α)) = [] := rfl

@[simp] theorem paintings_cons (call : Call α) (pen : Pen α) (part : List (Call α × Pen α)) :
    paintings ((call, pen) :: part) = (pen.painting? call).toList ++ paintings part := by
  simp only [paintings, List.filterMap_cons]
  cases pen.painting? call <;> rfl

theorem run_append (state : Pen α × List (Pen α)) (xs ys : List (Call α)) :
    run state (xs ++ ys) =
      ((run state xs).1 ++ (run (run state xs).2 ys).1, (run (run state xs).2 ys).2) := by
  induction xs generalizing state with
  | nil => rfl
  | cons x xs ih => simp [ih]

theorem map_fst_run (state : Pen α × List (Pen α)) (calls : List (Call α)) :
    (run state calls).1.map (·.1) = calls := by
  induction calls generalizing state with
  | nil => rfl
  | cons call calls ih => simp [ih]

/-- Calls that leave the pen as it is paint with one and the same pen. -/
theorem run_of_step_eq {calls : List (Call α)}
    (h : ∀ call ∈ calls, ∀ state, step state call = state)
    (state : Pen α × List (Pen α)) : run state calls = (calls.map (·, state.1), state) := by
  induction calls with
  | nil => rfl
  | cons call calls ih =>
    obtain ⟨hcall, hcalls⟩ := List.forall_mem_cons.1 h
    simp [hcall, ih hcalls]

theorem paintings_append (part part' : List (Call α × Pen α)) :
    paintings (part ++ part') = paintings part ++ paintings part' := List.filterMap_append

theorem paintings_map (calls : List (Call α)) (pen : Pen α) :
    paintings (calls.map (·, pen)) = calls.filterMap pen.painting? := by
  rw [paintings, List.filterMap_map]
  rfl

end Pen

/-- What calls paint from a state of the pen, whichever it is, with as many pens kept as before. -/
def Repaints (calls : List (Call α)) (ps : List (Painting α)) : Prop :=
  ∀ state, Pen.paintings (Pen.run state calls).1 = ps ∧ (Pen.run state calls).2.2 = state.2

variable [Coordinate α]

/-! ## What is asked for -/

/-- The ink of a colour's name. -/
def Palette.ink? (palette : Palette) (color : String) : Option (Ink α) :=
  (palette.code? color).map (·, none)

/-- What a text asks for: every line in its own font, size and colour. -/
def TextStyle.paintings (style : TextStyle α) (palette : Palette) (content : String) :
    List (Painting α) :=
  (palette.ink? style.color).toList.flatMap fun ink =>
    (style.typeface.wrap content.toList style.width style.size).map fun line =>
      .text (String.ofList line) (some (style.typeface.builtinFont, style.size)) ink

/-- What a seal asks for: two frames, its characters and its specks. -/
def sealPaintings (columns : List String) : List (Painting α) :=
  let ink : Ink α := (Canvas.sealColor, some (pt (17 / 20)))
  [.rect none (some (ink, some (pt (5 / 2)))),
    .rect none (some (ink, some (pt 1)))] ++
    columns.flatMap (fun column => column.toList.map fun c =>
      .text (String.ofList [c])
        (some (Typeface.mincho.builtinFont, pt Canvas.sealFontSize)) ink) ++
    List.replicate Canvas.speckCount (.circle (some (0xffffff, none)) none)

/-- What a mark asks for of a printer with a palette. A mark with an unknown colour is not painted.
-/
def Mark.paintings (palette : Palette) : Mark α → List (Painting α)
  | .newPage => []
  | .text content _ _ style => style.paintings palette content
  | .rect _ _ _ _ stroke fill lineWidth =>
    match (Canvas.given? stroke).mapM palette.code?, (Canvas.given? fill).mapM palette.code? with
    | some stroke, some fill =>
      [.rect (fill.map (·, none)) (stroke.map fun code => ((code, none), some lineWidth))]
    | _, _ => []
  | .line _ _ _ _ color lineWidth => (palette.ink? color).toList.map (.line · (some lineWidth))
  | .seal _ _ columns _ => sealPaintings columns

/-- What an operation asks for. A text in an unknown font is not painted, and what only measures
paints nothing. -/
def CanvasStep.paintings (palette : Palette) : CanvasStep α → List (Painting α)
  | .drawText content _ _ font style =>
    (Typeface.ofName? font).toList.flatMap fun typeface =>
      { style with typeface }.paintings palette content
  | .drawMark mark => mark.paintings palette
  | _ => []

/-! ## Marks -/

namespace Canvas

theorem step_of_mem_lineCalls {alignment : Alignment} {x lineHeight y : α}
    {lines : List (List Char)} {call : Call α} (h : call ∈ lineCalls alignment x lineHeight y lines)
    (state : Pen α × List (Pen α)) : Pen.step state call = state := by
  induction lines generalizing y with
  | nil => simp [lineCalls] at h
  | cons line lines ih =>
    obtain rfl | h := List.mem_cons.1 h
    · rfl
    · exact ih h

theorem painting?_lineCalls (pen : Pen α) (alignment : Alignment) (x lineHeight y : α)
    (lines : List (List Char)) :
    (lineCalls alignment x lineHeight y lines).filterMap pen.painting? =
      lines.map fun line => .text (String.ofList line) pen.font pen.fillColor := by
  induction lines generalizing y with
  | nil => rfl
  | cons line lines ih =>
    rw [lineCalls, List.filterMap_cons_some (by rfl), ih, List.map_cons]

theorem repaints_textCalls (c : Canvas α) (text : String) (x y : α) (style : TextStyle α) :
    Repaints (c.textCalls text x y style).calls (style.paintings c.palette text) := by
  intro state
  unfold textCalls textCallsBy TextStyle.paintings Typeface.wrap Palette.ink? Calls.withColor
  cases c.palette.code? style.color with
  | none => exact ⟨rfl, rfl⟩
  | some code =>
    simp only [Calls.andThen, Calls.done, List.cons_append, List.nil_append, Pen.run_cons,
      Pen.run_of_step_eq fun _ h => step_of_mem_lineCalls h, Pen.paintings_cons, Pen.paintings_map,
      painting?_lineCalls]
    simp [Pen.painting?, Pen.step]

omit [Coordinate α] in
/-- The call that sets a colour, if one is given. -/
theorem elim_withColor (palette : Palette) (color : Option String) (call : Nat → Call α) :
    (color.elim (.done []) fun name => Calls.withColor palette name call) =
      match color.mapM palette.code? with
      | none => ⟨[], some .unknownColour⟩
      | some code => .done (code.toList.map call) := by
  cases color with
  | none => rfl
  | some name =>
    simp only [Option.elim_some, Calls.withColor, Option.mapM_some]
    cases palette.code? name <;> rfl

theorem isSome_of_mapM {palette : Palette} {color : Option String} {code : Option Nat}
    (h : color.mapM palette.code? = some code) : color.isSome = code.isSome := by
  cases color with
  | none =>
    cases h
    rfl
  | some name =>
    rw [Option.mapM_some] at h
    obtain ⟨_, -, rfl⟩ := Option.map_eq_some_iff.1 h
    rfl

theorem repaints_rectCalls (c : Canvas α) (x y width height : α) (stroke fill : Option String)
    (lineWidth : α) : Repaints (c.rectCalls x y width height stroke fill lineWidth).calls
      ((Mark.rect x y width height stroke fill lineWidth).paintings c.palette) := by
  intro state
  simp only [rectCalls, Mark.paintings, elim_withColor]
  cases hstroke : (given? stroke).mapM c.palette.code? with
  | none => exact ⟨rfl, rfl⟩
  | some strokeCode =>
    cases hfill : (given? fill).mapM c.palette.code? with
    | none => cases strokeCode <;> exact ⟨rfl, rfl⟩
    | some fillCode =>
      rw [isSome_of_mapM hstroke, isSome_of_mapM hfill]
      cases strokeCode <;> cases fillCode <;> exact ⟨rfl, rfl⟩

theorem repaints_lineMarkCalls (c : Canvas α) (x₁ y₁ x₂ y₂ : α) (color : String) (lineWidth : α) :
    Repaints (c.lineMarkCalls x₁ y₁ x₂ y₂ color lineWidth).calls
      ((Mark.line x₁ y₁ x₂ y₂ color lineWidth).paintings c.palette) := by
  intro state
  simp only [lineMarkCalls, Mark.paintings, Palette.ink?, Calls.withColor]
  cases c.palette.code? color <;> simp [Calls.andThen, Calls.done, Pen.painting?, Pen.step]

theorem step_of_mem_columnsCalls {c : Canvas α} {x y size : α} {columns : List String}
    {call : Call α} (h : call ∈ c.columnsCalls x y size columns) (state : Pen α × List (Pen α)) :
    Pen.step state call = state := by
  obtain ⟨column, -, h⟩ := List.mem_flatMap.1 h
  obtain ⟨_, -, rfl⟩ := List.mem_map.1 h
  rfl

theorem painting?_columnsCalls (pen : Pen α) (c : Canvas α) (x y size : α)
    (columns : List String) :
    (c.columnsCalls x y size columns).filterMap pen.painting? =
      columns.flatMap fun column => column.toList.map fun char =>
        .text (String.ofList [char]) pen.font pen.fillColor := by
  have hcolumn (x y : α) (column : List Char) :
      (c.columnCalls x y column).filterMap pen.painting? =
        column.map fun char => .text (String.ofList [char]) pen.font pen.fillColor := by
    rw [columnCalls, List.filterMap_map, ← List.zipIdx_map_fst 0 column, List.map_map,
      List.zipIdx_map_fst, ← List.filterMap_eq_map]
    rfl
  simp only [columnsCalls, List.filterMap_flatMap, hcolumn]
  rw [← List.zipIdx_map_fst 0 columns, List.flatMap_map, List.zipIdx_map_fst]

theorem step_of_mem_speckCalls {c : Canvas α} {x y size : α} {call : Call α}
    (h : call ∈ c.speckCalls x y size) (state : Pen α × List (Pen α)) :
    Pen.step state call = state := by
  obtain ⟨_, -, rfl⟩ := List.mem_map.1 h
  rfl

theorem painting?_speckCalls (pen : Pen α) (c : Canvas α) (x y size : α) :
    (c.speckCalls x y size).filterMap pen.painting? =
      List.replicate speckCount (.circle (some pen.fillColor) none) := by
  have hconst : List.replicate speckCount (Painting.circle (some pen.fillColor) none) =
      (List.range speckCount).map fun _ => .circle (some pen.fillColor) none := by
    rw [List.map_const', List.length_range]
  rw [hconst, speckCalls, List.filterMap_map, ← List.filterMap_eq_map]
  rfl

theorem repaints_sealCalls (c : Canvas α) (x y : α) (columns : List String) (size : α) :
    Repaints (c.sealCalls x y columns size) (sealPaintings columns) := by
  intro state
  simp [sealCalls, sealPaintings, Pen.run_append, Pen.paintings_append, Pen.paintings_map,
    Pen.run_of_step_eq fun _ h => step_of_mem_columnsCalls h, painting?_columnsCalls,
    Pen.run_of_step_eq fun _ h => step_of_mem_speckCalls h, painting?_speckCalls,
    Pen.step, Pen.painting?]

/-- The calls for a mark paint what the mark asks for. -/
theorem repaints_draw (c : Canvas α) (m : Mark α) :
    Repaints (c.draw m).1.calls (m.paintings c.palette) :=
  match m with
  | .newPage => fun _ => ⟨rfl, rfl⟩
  | .text content x y style => c.repaints_textCalls content x y style
  | .rect x y width height stroke fill lineWidth =>
    c.repaints_rectCalls x y width height stroke fill lineWidth
  | .line x₁ y₁ x₂ y₂ color lineWidth => c.repaints_lineMarkCalls x₁ y₁ x₂ y₂ color lineWidth
  | .seal x y columns size => c.repaints_sealCalls x y columns size

/-! ## Operations -/

/-- The calls of an operation paint what the operation asks for. -/
theorem repaints_perform (c : Canvas α) (step : CanvasStep α) :
    Repaints (c.perform step).calls (step.paintings c.palette) := by
  cases step with
  | textWidth | wrapLines | textHeight => exact fun _ => ⟨rfl, rfl⟩
  | drawText content x y font style =>
    rw [perform, typefaceOf, CanvasStep.paintings]
    cases Typeface.ofName? font with
    | none => exact fun _ => ⟨rfl, rfl⟩
    | some typeface =>
      rw [Option.toList_some, List.flatMap_singleton]
      exact c.repaints_textCalls content x y { style with typeface }
  | drawMark mark => exact c.repaints_draw mark
  | finish =>
    have hcalls : (c.perform .finish).calls = [.save] := by
      simp only [perform, finish]
      cases c.obstacle <;> rfl
    rw [hcalls]
    exact fun _ => ⟨rfl, rfl⟩

/-- An operation leaves the colours of the printer as they are. -/
theorem palette_perform (c : Canvas α) (step : CanvasStep α) :
    (c.perform step).canvas.palette = c.palette := by
  cases step with
  | textWidth | wrapLines | textHeight => rfl
  | drawText content x y font style =>
    rw [perform]
    cases typefaceOf font <;> rfl
  | drawMark mark => cases mark <;> rfl
  | finish =>
    simp only [perform, finish]
    cases c.obstacle <;> rfl

end Canvas

/-- The calls of operations, one after the other. -/
def Canvas.allCalls (c : Canvas α) (steps : List (CanvasStep α)) : List (Call α) :=
  (c.performAll steps).flatMap (·.calls)

/-- Whatever operations are carried out one after the other, from whatever state of the pen and with
whatever colours: each of them paints what it asks for itself, and after each as many pens are kept
as before. -/
theorem paintings_of_performAll (c : Canvas α) (steps : List (CanvasStep α))
    (state : Pen α × List (Pen α)) :
    ∃ parts : List (List (Call α × Pen α)),
      (Pen.run state (c.allCalls steps)).1 = parts.flatten ∧
      parts.map (·.map (·.1)) = (c.performAll steps).map (·.calls) ∧
      List.Forall₂ (fun step part => Pen.paintings part = step.paintings c.palette) steps parts ∧
      ∀ n, (Pen.run state (c.allCalls (steps.take n))).2.2 = state.2 := by
  induction steps generalizing c state with
  | nil => exact ⟨[], rfl, rfl, .nil, fun n => by rw [List.take_nil]; rfl⟩
  | cons step steps ih =>
    obtain ⟨hpaintings, hkept⟩ := c.repaints_perform step state
    obtain ⟨parts, hrun, hcalls, hparts, hdepth⟩ :=
      ih (c.perform step).canvas (Pen.run state (c.perform step).calls).2
    rw [c.palette_perform] at hparts
    have hall (steps : List (CanvasStep α)) : c.allCalls (step :: steps) =
        (c.perform step).calls ++ (c.perform step).canvas.allCalls steps := rfl
    refine ⟨(Pen.run state (c.perform step).calls).1 :: parts, ?_, ?_, .cons hpaintings hparts, ?_⟩
    · rw [hall, Pen.run_append, hrun, List.flatten_cons]
    · rw [List.map_cons, Pen.map_fst_run, hcalls]
      rfl
    · rintro (_ | n)
      · rfl
      · rw [List.take_succ_cons, hall, Pen.run_append, hdepth, hkept]

end Billing

import Billing.Proofs.Drawing.Success
import Billing.Proofs.Number.Bounded

/-!
# The usual layout in binary64 numbers

With the usual measures every height on a page is a finite number, though each step is rounded: a
segment starts above 680 points (`start_of_fits`), a row ends above 800, and a box of remarks starts
above 1000. So the lines that fit below can always be counted.

* `paces_standard`: the bounds.
* `stopsBy_render_standard`: a print with the usual measures is stopped by its integers only.
-/

namespace Billing

open Coordinate Layout

namespace Binary64

variable {x y z : Binary64}

theorem isBetween_pt (q : Rat) (h : |q| ≤ 1000) :
    (pt q : Binary64).IsBetween (q - 1 / 1000) (q + 1 / 1000) :=
  isBetween_ofRat (h.trans (by norm_num))

section

variable {low high : Rat} (q : Rat)

theorem IsBetween.add_pt (hx : x.IsBetween low high) (hq : |q| ≤ 1000) (hlow : -2000 ≤ low)
    (hhigh : high ≤ 2000) : (x + pt q).IsBetween (low + q - 1 / 100) (high + q + 1 / 100) := by
  obtain ⟨hmin, hmax⟩ := abs_le.1 hq
  exact (hx.add (isBetween_pt q hq) (by linarith only [hmin, hlow])
    (by linarith only [hmax, hhigh])).mono (by linarith only) (by linarith only)

theorem IsBetween.sub_pt (hx : x.IsBetween low high) (hq : |q| ≤ 1000) (hlow : -2000 ≤ low)
    (hhigh : high ≤ 2000) : (x - pt q).IsBetween (low - q - 1 / 100) (high - q + 1 / 100) := by
  obtain ⟨hmin, hmax⟩ := abs_le.1 hq
  exact (hx.sub (isBetween_pt q hq) (by linarith only [hmax, hlow])
    (by linarith only [hmin, hhigh])).mono (by linarith only) (by linarith only)

theorem IsBetween.pt_sub (hx : x.IsBetween low high) (hq : |q| ≤ 1000) (hlow : -2000 ≤ low)
    (hhigh : high ≤ 2000) : (pt q - x).IsBetween (q - high - 1 / 100) (q - low + 1 / 100) := by
  obtain ⟨hmin, hmax⟩ := abs_le.1 hq
  exact ((isBetween_pt q hq).sub hx (by linarith only [hmin, hhigh])
    (by linarith only [hmax, hlow])).mono (by linarith only) (by linarith only)

end

theorem toRat_le_of_lt_eq_false (hx : x.isFinite) (hy : y.isFinite)
    (h : Binary64.lt x y = false) : y.toRat ≤ x.toRat := by
  obtain ⟨s, m, rfl⟩ := (isBetween_self hx).exists_eq
  obtain ⟨t, m', rfl⟩ := (isBetween_self hy).exists_eq
  simpa [Binary64.lt] using h

/-- What is not above a length is between that length and the one it is at least. -/
theorem isBetween_greater (hx : x.isFinite) (hz : z.isFinite) (h : lt z (greater x y) = false) :
    (greater x y).IsBetween x.toRat z.toRat := by
  unfold greater at h ⊢
  split at h
  · rename_i habove
    rw [if_pos habove]
    obtain ⟨s, m, rfl⟩ := (isBetween_self hx).exists_eq
    obtain ⟨t, m', rfl⟩ := (isBetween_self hz).exists_eq
    cases y with
    | finite u m'' =>
      refine ⟨rfl, ?_, toRat_le_of_lt_eq_false rfl rfl h⟩
      exact (of_decide_eq_true (p := (finite s m).toRat < (finite u m'').toRat) habove).le
    | infinity u =>
      cases u with
      | false => cases h
      | true => cases habove
    | nan => cases habove
  · rename_i hnot
    rw [if_neg hnot]
    exact ⟨hx, le_rfl, toRat_le_of_lt_eq_false hz hx h⟩

/-- The greater of two lengths that are between bounds. -/
theorem IsBetween.greater {low high : Rat} (hx : x.IsBetween low high)
    (hy : y.IsBetween low high) : (Coordinate.greater x y).IsBetween low high := by
  unfold Coordinate.greater
  split
  · exact hy
  · exact hx

end Binary64

namespace Layout

/-! ## Heights of lines -/

theorem nameHeight_standard : nameHeight (.standard : LayoutParams Binary64) = pt 14 := by
  decide +kernel

theorem isBetween_remarksHeight (doc : Document) :
    (remarksHeight doc : Binary64).IsBetween 1 100 := by
  cases h : doc.remarksAreDefault <;> simp only [remarksHeight, remarksStyle, h] <;>
    exact ⟨by decide +kernel, by decide +kernel, by decide +kernel⟩

theorem isBetween_line : (pt 14 : Binary64).IsBetween (14 - 1 / 1000) (14 + 1 / 1000) :=
  Binary64.isBetween_pt 14 (by norm_num)

/-- A row of as many lines as fit into a length is higher than it by at most 60 points. -/
theorem isBetween_rowHeight {x : Binary64} (hx : x.IsBetween 0 700) {count : Int}
    (hcount : count * (pt 14 : Binary64).toRat ≤ x.toRat + 3 * (pt 14 : Binary64).toRat) {k : Nat}
    (hk : k ≤ capacity count) :
    ((.standard : LayoutParams Binary64).rowHeight (ofCount k * pt 14)).IsBetween 1
      (x.toRat + 60) := by
  have hline := isBetween_line
  have hlines : (k * (pt 14 : Binary64).toRat : Rat) ≤ x.toRat + 3 * (pt 14 : Binary64).toRat := by
    rw [capacity] at hk
    obtain hone | hmany := le_total count 1
    · have hk : (k : Rat) ≤ 1 := by exact_mod_cast (show k ≤ 1 by omega)
      nlinarith only [hk, hx.low_le, hline.low_le]
    · have hk : (k : Rat) ≤ count := by exact_mod_cast (show (k : Int) ≤ count by omega)
      nlinarith only [hk, hcount, hline.low_le]
  have hfew : (k : Rat) ≤ 60 := by nlinarith only [hlines, hx.le_high, hline.low_le, hline.le_high]
  have hnonneg : (0 : Rat) ≤ k := Nat.cast_nonneg k
  have hnumber : (ofCount k : Binary64).IsBetween (k - 1 / 1000) (k + 1 / 1000) :=
    Binary64.isBetween_pt k (by rw [Nat.abs_cast]; linarith only [hfew])
  have hproduct : (ofCount k * pt 14 : Binary64).IsBetween (-1 / 10) (x.toRat + 43) := by
    have hlow : -1 / 50 ≤ (ofCount k : Binary64).toRat * (pt 14 : Binary64).toRat := by
      nlinarith only [hnumber.low_le, hline.low_le, hline.le_high, hnonneg]
    have hhigh : (ofCount k : Binary64).toRat * (pt 14 : Binary64).toRat ≤ x.toRat + 42.5 := by
      nlinarith only [hnumber.le_high, hlines, hline.low_le, hline.le_high]
    have hmul := Binary64.isBetween_mul hnumber.isFinite hline.isFinite
      (abs_le.2 ⟨by linarith only [hlow], by linarith only [hhigh, hx.le_high]⟩)
    exact hmul.mono (by linarith only [hlow]) (by linarith only [hhigh])
  have hpadded := hproduct.add_pt 16 (by norm_num) (by norm_num) (by linarith only [hx.le_high])
  have hmin := Binary64.isBetween_pt 30 (by norm_num)
  exact (hmin.mono (by norm_num) (by linarith only [hx.low_le])).greater
    (hpadded.mono (by norm_num) (by linarith only))

/-! ## Heights on a page -/

/-- The table starts on the first page only if it starts high enough. -/
theorem isBetween_tableTop {bottom : Binary64}
    (h : lt (pt 600) ((.standard : LayoutParams Binary64).tableTop bottom) = false) :
    ((.standard : LayoutParams Binary64).tableTop bottom).IsBetween 0 601 := by
  have hmin := Binary64.isBetween_pt 280 (by norm_num)
  have hmax := Binary64.isBetween_pt 600 (by norm_num)
  refine (Binary64.isBetween_greater hmin.isFinite hmax.isFinite h).mono ?_ ?_
  · exact hmin.low_le.trans' (by norm_num)
  · exact hmax.le_high.trans (by norm_num)

/-- A row that fits starts high enough, since it has a height. -/
theorem isBetween_of_fits {y measured : Binary64} (hy : y.IsBetween 0 800)
    (hfits : lt (pt 700 - y) ((.standard : LayoutParams Binary64).rowHeight measured) = false) :
    y.IsBetween 0 680 := by
  have hmin := Binary64.isBetween_pt 30 (by norm_num)
  have hroom := (Binary64.isBetween_self hy.isFinite).pt_sub 700 (by norm_num)
    (by linarith only [hy.low_le]) (by linarith only [hy.le_high])
  have hrow := Binary64.isBetween_greater hmin.isFinite hroom.isFinite hfits
  exact ⟨hy.isFinite, hy.low_le,
    by linarith only [hrow.low_le, hrow.le_high, hroom.le_high, hmin.low_le]⟩

/-- The lines that fit below a height can be counted, and a row of them ends on the page. -/
theorem exists_segment {y : Binary64} (hy : y.IsBetween 0 680) :
    ∃ count, floorQuotient (pt 700 - y - pt 16) (pt 14) = .ok count ∧ ∀ k ≤ capacity count,
      (y + (.standard : LayoutParams Binary64).rowHeight (ofCount k * pt 14)).IsBetween 0 800 := by
  have hself := Binary64.isBetween_self hy.isFinite
  have hroom := (hself.pt_sub 700 (by norm_num) (by linarith only [hy.low_le])
    (by linarith only [hy.le_high])).sub_pt 16 (by norm_num) (by linarith only [hy.le_high])
    (by linarith only [hy.low_le])
  obtain ⟨count, hquotient, hcount⟩ := (hroom.mono (by linarith only [hy.le_high])
    (by linarith only [hy.low_le])).exists_floorQuotient
      (isBetween_line.mono (by norm_num) (by norm_num))
  refine ⟨count, hquotient, fun k hk => ?_⟩
  have hrow := isBetween_rowHeight (hroom.mono (by linarith only [hy.le_high])
    (by linarith only [hy.low_le])) hcount hk
  exact (hself.add hrow (by linarith only [hy.low_le]) (by linarith only [hroom.le_high])).mono
    (by linarith only [hy.low_le]) (by linarith only [hroom.le_high])

/-- The summary leads to a height at which the lines of the remarks can be counted. -/
theorem isBetween_box {y : Binary64} (hy : y.IsBetween 0 800) :
    (y + pt 20 + pt 25 + pt 25 + pt 40).IsBetween 0 1000 := by
  have hsummary := hy.add_pt 20 (by norm_num) (by norm_num) (by norm_num)
  have htax := hsummary.add_pt 25 (by norm_num) (by norm_num) (by norm_num)
  have htotal := htax.add_pt 25 (by norm_num) (by norm_num) (by norm_num)
  exact (htotal.add_pt 40 (by norm_num) (by norm_num) (by norm_num)).mono (by norm_num)
    (by norm_num)

theorem exists_room (doc : Document) {y : Binary64} (hy : y.IsBetween 0 1000) :
    ∃ count, floorQuotient (pt 780 - y - pt 25) (remarksHeight doc) = .ok count := by
  have hroom := (hy.pt_sub 780 (by norm_num) (by norm_num) (by norm_num)).sub_pt 25 (by norm_num)
    (by norm_num) (by norm_num)
  obtain ⟨count, hquotient, -⟩ := (hroom.mono (by norm_num)
    (by norm_num)).exists_floorQuotient (isBetween_remarksHeight doc)
  exact ⟨count, hquotient⟩

/-- The heights of the usual layout. -/
theorem paces_standard : Paces (.standard : LayoutParams Binary64) (Binary64.IsBetween 0 680)
    (Binary64.IsBetween 0 800) (Binary64.IsBetween 0 1000) where
  start_top _ hlimit := ((isBetween_tableTop hlimit).add_pt 20 (by norm_num) (by norm_num)
    (by norm_num)).mono (by norm_num) (by norm_num)
  start_band := ((Binary64.isBetween_pt 50 (by norm_num)).add_pt 20 (by norm_num) (by norm_num)
    (by norm_num)).mono (by norm_num) (by norm_num)
  start_of_fits _ _ hy hfits := isBetween_of_fits hy hfits
  below_of_start _ hy := hy.mono le_rfl (by norm_num)
  segment y hy := nameHeight_standard ▸ exists_segment hy
  box_of_below _ hy := isBetween_box <| hy.elim id fun h => h ▸
    (Binary64.isBetween_pt 50 (by norm_num)).mono (by norm_num) (by norm_num)
  box_top := (Binary64.isBetween_pt 50 (by norm_num)).mono (by norm_num) (by norm_num)
  room doc _ hy := exists_room doc hy

theorem isMeasured_standard (pageWidth : Binary64) : IsMeasured (.print pageWidth) .standard where
  canvas := .print pageWidth
  client _ _ _ := ⟨_, rfl⟩
  issuer _ _ _ := ⟨_, rfl⟩
  name _ _ _ := ⟨_, rfl⟩
  remarks _ _ _ _ := ⟨_, rfl⟩

/-- With the usual measures a document whose issuer and tax rate can be drawn is stopped by its
integers only. -/
theorem stopsBy_render_standard {doc : Document} (issuer : doc.issuer.IsPrintable)
    (label : ∃ s, taxLabel doc.taxRate = .ok s) (pageWidth : Binary64) :
    StopsBy doc.Exceeds (doc.render (.print pageWidth) .standard) :=
  stopsBy_render (isMeasured_standard pageWidth) paces_standard issuer label

end Layout

end Billing

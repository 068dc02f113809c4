import Billing.Document.Date
import Billing.Document.Kind
import Mathlib.Data.Nat.Digits.Defs
import Mathlib.Tactic.SplitIfs

/-!
# The wordings of a heading

The title and the date of a document hold no newline, whatever its kind and its day, and are short.

* `DocumentKind.toList_title`: titles.
* `Date.newline_not_mem_text`, `Date.length_text_le`: dates.
-/

namespace Billing

theorem DocumentKind.toList_title (kind : DocumentKind) :
    kind.title.toList ≠ [] ∧ '\n' ∉ kind.title.toList ∧ kind.title.toList.length ≤ 7 := by
  cases kind <;> decide

theorem toList_toString_nat (n : Nat) : (toString n).toList = Nat.toDigits 10 n := by
  simp [toString, Nat.repr]

theorem not_mem_toString_nat {c : Char} (hc : c.isDigit = false) (n : Nat) :
    c ∉ (toString n).toList := by
  rw [toList_toString_nat]
  intro h
  have := Nat.isDigit_of_mem_toDigits (by omega) (by omega) h
  simp [hc] at this

theorem length_toString_nat_le {n e : Nat} (he : 0 < e) (h : n < 10 ^ e) :
    (toString n).toList.length ≤ e := by
  rw [toList_toString_nat]
  exact Nat.toDigits_length 10 n e he h

namespace Date

theorem toList_text (d : Date) :
    d.text.toList = (toString d.year).toList ++ '年' :: ' ' :: ((toString d.month).toList ++
      '月' :: ' ' :: ((toString d.day).toList ++ ['日'])) := by
  simp [text]

theorem newline_not_mem_text (d : Date) : '\n' ∉ d.text.toList := by
  have hdigits (n : Nat) : '\n' ∉ (toString n).toList := not_mem_toString_nat (by decide) n
  simp only [toList_text, List.mem_append, List.mem_cons, List.not_mem_nil, or_false, not_or]
  exact ⟨hdigits _, by decide, by decide, hdigits _, by decide, by decide, hdigits _, by decide⟩

theorem text_ne_nil (d : Date) : d.text.toList ≠ [] := by simp [toList_text]

/-- Dates of the calendar are short. -/
theorem length_text_le {d : Date} (h : d.isInCalendar) : d.text.toList.length ≤ 13 := by
  simp only [isInCalendar, Bool.and_eq_true, decide_eq_true_eq] at h
  unfold lastYear at h
  have hdays : daysOfMonth d.year d.month ≤ 31 := by
    unfold daysOfMonth
    split_ifs <;> omega
  have hyear := length_toString_nat_le (n := d.year) (e := 4) (by omega) (by omega)
  have hmonth := length_toString_nat_le (n := d.month) (e := 2) (by omega) (by omega)
  have hday := length_toString_nat_le (n := d.day) (e := 2) (by omega) (by omega)
  simp only [toList_text, List.length_append, List.length_cons, List.length_nil]
  omega

end Date

end Billing

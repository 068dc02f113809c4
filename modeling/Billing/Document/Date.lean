/-!
# Dates

Calendar dates from the first year to the year 9999 (`Date.ofNumbers?`) and their texts.

* `ofNumbers?_leapDay`: the 29th of February is in leap years only.
-/

namespace Billing

/-- A calendar date. -/
structure Date where
  year : Nat
  month : Nat
  day : Nat
  deriving DecidableEq, Repr, Inhabited

namespace Date

/-- Whether a year has a day more than other years. -/
def isLeapYear (year : Nat) : Bool := year % 4 = 0 && (year % 100 != 0 || year % 400 = 0)

/-- The number of days of a month. -/
def daysOfMonth (year month : Nat) : Nat :=
  if month = 2 then if isLeapYear year then 29 else 28
  else if [4, 6, 9, 11].contains month then 30 else 31

/-- The last year of the calendar. -/
def lastYear : Nat := 9999

/-- Whether the calendar has the date. -/
def isInCalendar (d : Date) : Bool :=
  1 ≤ d.year && d.year ≤ lastYear && 1 ≤ d.month && d.month ≤ 12 && 1 ≤ d.day &&
    d.day ≤ daysOfMonth d.year d.month

/-- The date with these numbers, if the calendar has it. -/
def ofNumbers? (year month day : Int) : Option Date :=
  let d : Date := ⟨year.toNat, month.toNat, day.toNat⟩
  if d.isInCalendar then some d else none

/-- The date as it stands on a document. -/
def text (d : Date) : String :=
  toString d.year ++ "年 " ++ toString d.month ++ "月 " ++ toString d.day ++ "日"

/-- A number in two digits. -/
def twoDigits (n : Nat) : String := (if n < 10 then "0" else "") ++ toString n

/-- The date in digits: the year as it is, month and day in two digits each. -/
def compact (d : Date) : String := toString d.year ++ twoDigits d.month ++ twoDigits d.day

theorem ofNumbers?_leapDay {year : Nat} (h : 1 ≤ year ∧ year ≤ lastYear) :
    ofNumbers? year 2 29 = if isLeapYear year then some ⟨year, 2, 29⟩ else none := by
  cases hy : isLeapYear year <;> simp [ofNumbers?, isInCalendar, daysOfMonth, hy, h.1, h.2]

end Date

end Billing

/-
**Calendar days.**

Days of the Gregorian calendar, carried on before its introduction and before year one.  The library
needs no distance between days, only the neighbours of a day: a clock that is less than a day ahead
of another shows the same day, the next one or the one before.

Main definitions:

* `ChapterAssembly.Date` — a day that exists;
* `Date.next`, `Date.previous` — its neighbours.

Main results:

* `Date.previous_next` — the day before the next day is the day itself.
-/

import ChapterAssembly.Text.Basic

set_option relaxedAutoImplicit false
set_option autoImplicit false

namespace ChapterAssembly

/-- A year with a twenty-ninth of February. -/
def isLeapYear (year : Int) : Bool := year % 4 == 0 && (year % 100 != 0 || year % 400 == 0)

/-- The number of days of a month, `0` for what is no month. -/
def daysInMonth (year : Int) (month : Nat) : Nat :=
  if month = 2 then if isLeapYear year then 29 else 28
  else if month ∈ [4, 6, 9, 11] then 30
  else if 1 ≤ month ∧ month ≤ 12 then 31
  else 0

/-- A day of the calendar. -/
@[ext]
structure Date where
  year : Int
  month : Nat
  day : Nat
  exists_month : 1 ≤ month ∧ month ≤ 12
  exists_day : 1 ≤ day ∧ day ≤ daysInMonth year month
deriving DecidableEq

namespace Date

/-- The day with the given numbers, if there is one. -/
def of? (year : Int) (month day : Nat) : Option Date :=
  if hm : 1 ≤ month ∧ month ≤ 12 then
    if hd : 1 ≤ day ∧ day ≤ daysInMonth year month then some ⟨year, month, day, hm, hd⟩ else none
  else none

theorem of?_eq (d : Date) : of? d.year d.month d.day = some d := by
  simp [of?, d.exists_month, d.exists_day]

theorem le_daysInMonth (year : Int) {month : Nat} (h : 1 ≤ month ∧ month ≤ 12) :
    28 ≤ daysInMonth year month := by
  unfold daysInMonth
  split
  · split <;> omega
  · split
    · omega
    · omega

theorem daysInMonth_december (year : Int) : daysInMonth year 12 = 31 := by simp [daysInMonth]

/-- The day after. -/
def next (d : Date) : Date :=
  if hd : d.day < daysInMonth d.year d.month then
    { d with day := d.day + 1, exists_day := by omega }
  else if hm : d.month < 12 then
    { d with
      month := d.month + 1
      day := 1
      exists_month := by omega
      exists_day := ⟨Nat.le_refl 1, by
        have h := le_daysInMonth d.year (show 1 ≤ d.month + 1 ∧ d.month + 1 ≤ 12 by omega)
        omega⟩ }
  else
    { year := d.year + 1
      month := 1
      day := 1
      exists_month := by omega
      exists_day := ⟨Nat.le_refl 1, by simp [daysInMonth]⟩ }

/-- The day before. -/
def previous (d : Date) : Date :=
  if hd : 1 < d.day then
    { d with day := d.day - 1, exists_day := by have := d.exists_day; omega }
  else if hm : 1 < d.month then
    { d with
      month := d.month - 1
      day := daysInMonth d.year (d.month - 1)
      exists_month := by have := d.exists_month; omega
      exists_day := ⟨by
        have h := le_daysInMonth d.year (show 1 ≤ d.month - 1 ∧ d.month - 1 ≤ 12 by
          have := d.exists_month
          omega)
        omega, Nat.le_refl _⟩ }
  else
    { year := d.year - 1
      month := 12
      day := 31
      exists_month := by omega
      exists_day := ⟨by omega, by simp [daysInMonth]⟩ }

/-- **The day before the next day is the day itself.** -/
theorem previous_next (d : Date) : d.next.previous = d := by
  obtain ⟨year, month, day, hm, hd⟩ := d
  unfold next
  split
  · next h =>
    have : 0 < day := by omega
    ext <;> simp [previous, this]
  · next h =>
    split
    · next h' =>
      have : daysInMonth year month = day := by simp only at h; omega
      have : 1 < month + 1 := by omega
      ext <;> simp_all [previous]
    · next h' =>
      have hm' : month = 12 := by simp only at h'; omega
      subst hm'
      have : day = 31 := by simp only [daysInMonth_december] at h hd; omega
      ext <;> simp_all [previous]

end Date

end ChapterAssembly

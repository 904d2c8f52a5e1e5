/-!
Instants of universal time: a day of the Gregorian calendar, the second of that day and the
nanosecond of that second. An instant inside a leap second belongs to the second before it and has
a nanosecond of a thousand million or more.
-/
namespace NodeTuning

/-- A leap year is divisible by 4, but by 100 only if by 400. -/
def isLeapYear (year : Int) : Bool :=
  year % 4 = 0 && (year % 100 ≠ 0 || year % 400 = 0)

def daysInMonth (year : Int) (month : Nat) : Nat :=
  if month = 2 then (if isLeapYear year then 29 else 28)
  else if month = 4 ∨ month = 6 ∨ month = 9 ∨ month = 11 then 30
  else 31

theorem daysInMonth_pos (year : Int) (month : Nat) : 1 ≤ daysInMonth year month := by
  unfold daysInMonth
  split
  · split <;> decide
  · split <;> decide

structure Date where
  year : Int
  month : Nat
  day : Nat
  month_range : 1 ≤ month ∧ month ≤ 12
  day_range : 1 ≤ day ∧ day ≤ daysInMonth year month
  deriving DecidableEq

namespace Date

def of? (year : Int) (month day : Nat) : Option Date :=
  if monthRange : 1 ≤ month ∧ month ≤ 12 then
    if dayRange : 1 ≤ day ∧ day ≤ daysInMonth year month then
      some ⟨year, month, day, monthRange, dayRange⟩
    else none
  else none

def next (date : Date) : Date :=
  if inside : date.day < daysInMonth date.year date.month then
    ⟨date.year, date.month, date.day + 1, date.month_range, by omega⟩
  else if sameYear : date.month < 12 then
    ⟨date.year, date.month + 1, 1, by omega, ⟨Nat.le_refl 1, daysInMonth_pos _ _⟩⟩
  else ⟨date.year + 1, 1, 1, by omega, ⟨Nat.le_refl 1, daysInMonth_pos _ _⟩⟩

def previous (date : Date) : Date :=
  if inside : 1 < date.day then
    ⟨date.year, date.month, date.day - 1, date.month_range,
      by have := date.day_range; omega⟩
  else if sameYear : 1 < date.month then
    ⟨date.year, date.month - 1, daysInMonth date.year (date.month - 1),
      by have := date.month_range; omega, ⟨daysInMonth_pos _ _, Nat.le_refl _⟩⟩
  else
    ⟨date.year - 1, 12, 31, by omega, by simp [daysInMonth]⟩

end Date

structure Timestamp where
  date : Date
  second : Nat
  nano : Nat
  second_lt : second < 86400
  nano_lt : nano < 2000000000
  deriving DecidableEq

namespace Timestamp

/-- The instant at which clocks that are `offset` seconds ahead of universal time show the given
date and second. -/
def ofLocal? (date : Date) (second nano : Nat) (offset : Int) : Option Timestamp :=
  let shifted : Int := second - offset
  let day := if shifted < 0 then date.previous else if 86400 ≤ shifted then date.next else date
  let rest := (shifted % 86400).toNat
  if secondRange : rest < 86400 then
    if nanoRange : nano < 2000000000 then some ⟨day, rest, nano, secondRange, nanoRange⟩
    else none
  else none

def ofYear (year : Int) : Timestamp :=
  ⟨⟨year, 1, 1, by omega, ⟨Nat.le_refl 1, daysInMonth_pos _ _⟩⟩, 0, 0, by omega, by omega⟩

instance : Inhabited Timestamp := ⟨ofYear 1970⟩

end Timestamp
end NodeTuning

/-!
# TaskLifecycle.Moment.Basic — moments of the calendar

A moment is a day of the proleptic Gregorian calendar and a time of that day to the nanosecond, without a zone.  A minute
may have a second 60.

* `Moment`: the parts, with the proof that they make a date and a time;
* `Moment.rank`: the place of a moment in time.
-/

namespace TaskLifecycle
namespace Moment

def isLeapYear (year : Int) : Bool :=
  year % 4 = 0 && (year % 100 ≠ 0 || year % 400 = 0)

/-- The days of a month. -/
def daysIn (year : Int) (month : Nat) : Nat :=
  if month = 2 then (if isLeapYear year then 29 else 28)
  else if month = 4 ∨ month = 6 ∨ month = 9 ∨ month = 11 then 30
  else 31

theorem daysIn_le (year : Int) (month : Nat) : daysIn year month ≤ 31 := by
  unfold daysIn
  split
  · split <;> decide
  · split <;> decide

def minYear : Int := -262143

def maxYear : Int := 262142

def IsDate (year : Int) (month day : Nat) : Prop :=
  minYear ≤ year ∧ year ≤ maxYear ∧ 1 ≤ month ∧ month ≤ 12 ∧ 1 ≤ day ∧ day ≤ daysIn year month

/-- Second 60 is a leap second. -/
def IsTime (hour minute second nano : Nat) : Prop :=
  hour < 24 ∧ minute < 60 ∧ second ≤ 60 ∧ nano < 1000000000

instance (year : Int) (month day : Nat) : Decidable (IsDate year month day) := by
  unfold IsDate; infer_instance

instance (hour minute second nano : Nat) : Decidable (IsTime hour minute second nano) := by
  unfold IsTime; infer_instance

end Moment

/-- A moment, by its calendar day and the time on it. -/
structure Moment where
  year : Int
  month : Nat
  day : Nat
  hour : Nat
  minute : Nat
  second : Nat
  nano : Nat
  isDate : Moment.IsDate year month day
  isTime : Moment.IsTime hour minute second nano
deriving DecidableEq

namespace Moment

/-- The parts as a moment, if they are one. -/
def of? (year : Int) (month day hour minute second nano : Nat) : Option Moment :=
  if hd : IsDate year month day then
    if ht : IsTime hour minute second nano then some ⟨year, month, day, hour, minute, second, nano, hd, ht⟩ else none
  else none

/-- A number that grows with time. -/
def rank (m : Moment) : Int :=
  (((((m.year * 13 + m.month) * 32 + m.day) * 24 + m.hour) * 60 + m.minute) * 61 + m.second) * 1000000000 + m.nano

instance : LE Moment := ⟨fun a b => a.rank ≤ b.rank⟩

instance : LT Moment := ⟨fun a b => a.rank < b.rank⟩

instance (a b : Moment) : Decidable (a ≤ b) :=
  inferInstanceAs (Decidable (a.rank ≤ b.rank))

instance (a b : Moment) : Decidable (a < b) :=
  inferInstanceAs (Decidable (a.rank < b.rank))

theorem lt_def (a b : Moment) : a < b ↔ a.rank < b.rank :=
  Iff.rfl

/-- Different moments have different places in time. -/
theorem rank_injective {a b : Moment} (h : a.rank = b.rank) : a = b := by
  obtain ⟨y, mo, d, ho, mi, s, n, hd, ht⟩ := a
  obtain ⟨y', mo', d', ho', mi', s', n', hd', ht'⟩ := b
  have hb := daysIn_le y mo
  have hb' := daysIn_le y' mo'
  simp only [rank, IsDate, IsTime] at h hd ht hd' ht'
  have hn : n = n' := by omega
  have hs : s = s' := by omega
  have hmi : mi = mi' := by omega
  have hho : ho = ho' := by omega
  have hdd : d = d' := by omega
  have hmo : mo = mo' := by omega
  have hy : y = y' := by omega
  subst hn hs hmi hho hdd hmo hy
  rfl

end Moment
end TaskLifecycle

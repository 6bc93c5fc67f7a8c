import RowMap.Calendar.Date

/-!
# Times of day and instants

A time of day has seconds and nanoseconds. A leap second is the second before it with a
nanosecond count of a whole second or more.
-/

namespace RowMap.Calendar

structure TimeOfDay where
  /-- Seconds since midnight. -/
  second : Fin 86400
  nano : Fin 2000000000
deriving DecidableEq

def TimeOfDay.midnight : TimeOfDay := ⟨0, 0⟩

/-- The time of a clock. Second 60 is a leap second. -/
def TimeOfDay.ofClock? (hour minute second nano : Nat) : Option TimeOfDay :=
  let (second, nano) := if second = 60 then (59, nano + 1000000000) else (second, nano)
  if h : hour ≤ 23 ∧ minute ≤ 59 ∧ second ≤ 59 ∧ nano < 2000000000 then
    some ⟨⟨hour * 3600 + minute * 60 + second, by omega⟩, ⟨nano, by omega⟩⟩
  else none

/-- A date and a time of day, without a zone. -/
structure LocalDateTime where
  date : Date
  time : TimeOfDay
deriving DecidableEq

/-- A point in time, as its date and time in UTC. -/
structure Instant where
  utc : LocalDateTime
deriving DecidableEq

def LocalDateTime.epoch : LocalDateTime := ⟨.epoch, .midnight⟩
def Instant.epoch : Instant := ⟨.epoch⟩

/-! ## Order -/

/-- Dates first, then seconds, then nanoseconds. -/
def LocalDateTime.before (a b : LocalDateTime) : Bool :=
  if a.date.day ≠ b.date.day then a.date.day < b.date.day
  else if a.time.second ≠ b.time.second then a.time.second < b.time.second
  else a.time.nano < b.time.nano

def Instant.before (a b : Instant) : Bool := a.utc.before b.utc

/-! ## Moving -/

/-- The date and time `seconds` later with the same nanoseconds. -/
def LocalDateTime.shift (t : LocalDateTime) (seconds : Int) : Option LocalDateTime :=
  let total : Int := t.time.second + seconds
  have h : (total % 86400).toNat < 86400 := by omega
  (t.date.plus (total / 86400)).map fun date => ⟨date, ⟨(total % 86400).toNat, h⟩, t.time.nano⟩

/-- The instant a positive number of seconds later. A leap second counts as the second after it. -/
def Instant.later (t : Instant) (seconds : Nat) : Option Instant :=
  let nano : Fin 2000000000 :=
    if h : seconds ≠ 0 ∧ 1000000000 ≤ t.utc.time.nano.val then
      ⟨t.utc.time.nano.val - 1000000000, by omega⟩
    else t.utc.time.nano
  (LocalDateTime.shift ⟨t.utc.date, t.utc.time.second, nano⟩ seconds).map Instant.mk

end RowMap.Calendar

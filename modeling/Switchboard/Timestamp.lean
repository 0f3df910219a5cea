import Switchboard.Duration
import Switchboard.Text.Decimal

/-! Moments of the calendar, in universal time, to the nanosecond. Second 60 is a leap second. A
moment is written to the millisecond; years outside 0 to 9999 carry their sign. -/

namespace Switchboard

structure Timestamp where
  year : Int
  /-- Counted from zero. -/
  month : Fin 12
  /-- Counted from zero. -/
  day : Fin 31
  hour : Fin 24
  minute : Fin 60
  second : Fin 61
  nanos : Fin 1000000000
deriving DecidableEq

namespace Timestamp

def yearText (y : Int) : List Char :=
  if 0 ≤ y ∧ y ≤ 9999 then Decimal.padded 4 y.toNat
  else (if y < 0 then '-' else '+') :: Decimal.padded 4 y.natAbs

def text (t : Timestamp) : List Char :=
  yearText t.year ++ '-' :: Decimal.padded 2 (t.month + 1) ++ '-' :: Decimal.padded 2 (t.day + 1)
    ++ ' ' :: Decimal.padded 2 t.hour ++ ':' :: Decimal.padded 2 t.minute
    ++ ':' :: Decimal.padded 2 t.second ++ '.' :: Decimal.padded 3 (t.nanos / 1000000)

def year? : List Char → Option (Int × List Char)
  | '-' :: cs => (Decimal.until? '-' cs).map fun (n, rest) => (-(n : Int), rest)
  | '+' :: cs => (Decimal.until? '-' cs).map fun (n, rest) => ((n : Int), rest)
  | cs => (Decimal.until? '-' cs).map fun (n, rest) => ((n : Int), rest)

def read? (cs : List Char) : Option Timestamp := do
  let (year, cs) ← year? cs
  let (month, cs) ← Decimal.until? '-' cs
  let (day, cs) ← Decimal.until? ' ' cs
  let (hour, cs) ← Decimal.until? ':' cs
  let (minute, cs) ← Decimal.until? ':' cs
  let (second, cs) ← Decimal.until? '.' cs
  let millis ← Decimal.value? cs
  if h : (0 < month ∧ month - 1 < 12) ∧ (0 < day ∧ day - 1 < 31) ∧ hour < 24 ∧ minute < 60 ∧
      second < 61 ∧ millis < 1000 then
    some ⟨year, ⟨month - 1, h.1.2⟩, ⟨day - 1, h.2.1.2⟩, ⟨hour, h.2.2.1⟩, ⟨minute, h.2.2.2.1⟩,
      ⟨second, h.2.2.2.2.1⟩, ⟨millis * 1000000, by omega⟩⟩
  else none

/-- Days from the first of March of year zero to the first day of a month, where `m` counts the
months from March. -/
def daysBeforeMonth (m : Nat) : Nat := (153 * m + 2) / 5

def dayNumber (t : Timestamp) : Int :=
  let m := (t.month.val + 10) % 12
  let y := if t.month.val < 2 then t.year - 1 else t.year
  365 * y + Int.fdiv y 4 - Int.fdiv y 100 + Int.fdiv y 400
    + ((daysBeforeMonth m + t.day.val : Nat) : Int) - 719468

/-- Nanoseconds from the beginning of 1970; a leap second overlaps the second after it. -/
def position (t : Timestamp) : Int :=
  ((t.dayNumber * 24 + t.hour) * 60 + t.minute) * 60000000000 + t.second * 1000000000 + t.nanos

def ofPosition (p : Int) : Timestamp :=
  let z := Int.fdiv p 86400000000000 + 719468
  let ofDay := (Int.fmod p 86400000000000).toNat
  let era := Int.fdiv z 146097
  let doe := (z - era * 146097).toNat
  let yoe := (doe - doe / 1460 + doe / 36524 - doe / 146096) / 365
  let doy := doe - (365 * yoe + yoe / 4 - yoe / 100)
  let m := (5 * doy + 2) / 153
  { year := era * 400 + yoe + (if 10 ≤ m then 1 else 0)
    month := Fin.ofNat 12 (m + 2)
    day := Fin.ofNat 31 (doy - daysBeforeMonth m)
    hour := Fin.ofNat 24 (ofDay / 3600000000000)
    minute := Fin.ofNat 60 (ofDay / 60000000000)
    second := Fin.ofNat 61 (ofDay / 1000000000 % 60)
    nanos := Fin.ofNat 1000000000 ofDay }

def later (t : Timestamp) (d : Nat) : Timestamp := ofPosition (t.position + d)

/-- A leap second counts as part of the second before it. -/
def secondOfDay (t : Timestamp) : Nat := (t.hour * 60 + t.minute) * 60 + min t.second.val 59

def isLeap (t : Timestamp) : Bool := t.second == 60

/-- The leap second that `position` leaves out between `s` and `t`, by their times of day. -/
def leapBetween (s t : Timestamp) : Int :=
  if s.isLeap && s.secondOfDay < t.secondOfDay then 1000000000
  else if t.isLeap && t.secondOfDay < s.secondOfDay then -1000000000
  else 0

def since (t s : Timestamp) : Nat := (t.position - s.position + leapBetween s t).toNat

instance : LE Timestamp := ⟨fun s t => s.position ≤ t.position⟩

end Timestamp

end Switchboard

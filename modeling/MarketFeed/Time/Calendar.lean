/-!
# The calendar

Instants as milliseconds since 1970 in Coordinated Universal Time, and as dates of the Gregorian
calendar, which is extended to all years. A cycle of 400 years has 146097 days; counting its years
from March puts the leap day at the end.
-/

namespace MarketFeed

/-- A date and a time of day. -/
structure DateTime where
  year : Int
  month : Nat
  day : Nat
  hour : Nat
  minute : Nat
  second : Nat
  milli : Nat
  deriving DecidableEq, Repr

namespace DateTime

def millisPerDay : Int := 86400000

def daysPerCycle : Int := 146097

/-- The days from the first of March of the year 0 to the first of January 1970. -/
def epochOffset : Int := 719468

/-- Year, month and day of a number of days since 1970. -/
def ofDays (days : Int) : Int × Nat × Nat :=
  let z := days + epochOffset
  let cycle := z.fdiv daysPerCycle
  let dayOfCycle := (z.fmod daysPerCycle).toNat
  let yearOfCycle :=
    (dayOfCycle - dayOfCycle / 1460 + dayOfCycle / 36524 - dayOfCycle / 146096) / 365
  let dayOfYear := dayOfCycle - (365 * yearOfCycle + yearOfCycle / 4 - yearOfCycle / 100)
  let m := (5 * dayOfYear + 2) / 153
  let day := dayOfYear - (153 * m + 2) / 5 + 1
  let month := if m < 10 then m + 3 else m - 9
  let year := cycle * 400 + yearOfCycle + if month ≤ 2 then 1 else 0
  (year, month, day)

def toDays (year : Int) (month day : Nat) : Int :=
  let y := if month ≤ 2 then year - 1 else year
  let cycle := y.fdiv 400
  let yearOfCycle := (y.fmod 400).toNat
  let m := if 2 < month then month - 3 else month + 9
  let dayOfYear := (153 * m + 2) / 5 + day - 1
  let dayOfCycle := yearOfCycle * 365 + yearOfCycle / 4 - yearOfCycle / 100 + dayOfYear
  cycle * daysPerCycle + dayOfCycle - epochOffset

def ofMillis (ms : Int) : DateTime :=
  let (year, month, day) := ofDays (ms.fdiv millisPerDay)
  let rest := (ms.fmod millisPerDay).toNat
  { year, month, day,
    hour := rest / 3600000, minute := rest / 60000 % 60, second := rest / 1000 % 60,
    milli := rest % 1000 }

def toMillis (t : DateTime) : Int :=
  toDays t.year t.month t.day * millisPerDay
    + (t.hour * 3600000 + t.minute * 60000 + t.second * 1000 + t.milli : Nat)

def minYear : Int := -262143

def maxYear : Int := 262142

/-- A number with zeros in front, at least `width` digits. -/
def padded (width n : Nat) : List Char :=
  let ds := Nat.toDigits 10 n
  List.replicate (width - ds.length) '0' ++ ds

/-- A year with at least four digits, and with its sign unless it has exactly four. -/
def yearText (year : Int) : List Char :=
  if 0 ≤ year ∧ year ≤ 9999 then padded 4 year.toNat
  else (if year < 0 then '-' else '+') :: padded 4 year.natAbs

/-- Date and time with a `T` between them, milliseconds, and `Z` at the end. -/
def text (t : DateTime) : List Char :=
  yearText t.year ++ '-' :: padded 2 t.month ++ '-' :: padded 2 t.day ++ 'T' :: padded 2 t.hour
    ++ ':' :: padded 2 t.minute ++ ':' :: padded 2 t.second ++ '.' :: padded 3 t.milli ++ ['Z']

/-- The text of an instant, if its year can be written. -/
def textOfMillis? (ms : Int) : Option String :=
  let t := ofMillis ms
  if minYear ≤ t.year ∧ t.year ≤ maxYear then some (String.ofList t.text) else none

example : ofMillis 1700000000123 = ⟨2023, 11, 14, 22, 13, 20, 123⟩ := by decide
example : ofMillis (-1) = ⟨1969, 12, 31, 23, 59, 59, 999⟩ := by decide
example : toDays 2000 3 1 - toDays 2000 2 28 = 2 := by decide
example : toDays 1900 3 1 - toDays 1900 2 28 = 1 := by decide

end DateTime

end MarketFeed

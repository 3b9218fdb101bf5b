import MenuHost.Time.Timestamp

/-!
# The calendar

Dates of the Gregorian calendar, carried on backwards and forwards for ever, and
their text in cookies: `Thu, 01 Jan 1970 00:00:00 GMT`.

Days are counted from the first of January 1970. `Date.ofDay` takes a count
apart, `Date.day` counts, and `Date.weekday` counts through the week.
-/

namespace MenuHost.Time

/-- A date. Months are numbered from 1, years before the year 1 from 0 down. -/
structure Date where
  year : Int
  month : Nat
  day : Nat
deriving Repr, DecidableEq, Inhabited

namespace Date

def isLeap (year : Int) : Bool :=
  year % 4 == 0 && (year % 100 != 0 || year % 400 == 0)

def commonMonths : List Nat := [31, 28, 31, 30, 31, 30, 31, 31, 30, 31, 30, 31]

def daysInMonth (year : Int) (month : Nat) : Nat :=
  if month = 2 ∧ isLeap year then 29 else commonMonths.getD (month - 1) 0

def isValid (d : Date) : Prop :=
  1 ≤ d.month ∧ d.month ≤ 12 ∧ 1 ≤ d.day ∧ d.day ≤ daysInMonth d.year d.month

instance (d : Date) : Decidable d.isValid :=
  inferInstanceAs (Decidable (1 ≤ d.month ∧ d.month ≤ 12 ∧ 1 ≤ d.day ∧
    d.day ≤ daysInMonth d.year d.month))

/-! ## Counting days -/

/-- Days from the first of March of the year 0 to the first of January 1970. -/
def epochFromMarch : Int := 719468

/-- Days in 400 years, after which the calendar repeats itself. -/
def daysPerCycle : Nat := 146097

/-- The year of a day within a cycle of 400 years. Years begin in March, so that
the leap day is their last. -/
def cycleYear (day : Nat) : Nat :=
  (day - day / 1460 + day / 36524 - day / 146096) / 365

/-- Days before a year of a cycle. -/
def daysBeforeYear (year : Nat) : Nat :=
  365 * year + year / 4 - year / 100

/-- Days from the first of March to the first of a month, counted from March. -/
def daysBeforeMonth (month : Nat) : Nat :=
  (153 * month + 2) / 5

def ofDay (day : Int) : Date :=
  let fromMarch := day + epochFromMarch
  let cycle := fromMarch / daysPerCycle
  let dayOfCycle := (fromMarch % daysPerCycle).toNat
  let year := cycleYear dayOfCycle
  let dayOfYear := dayOfCycle - daysBeforeYear year
  let month := (5 * dayOfYear + 2) / 153
  { year := year + cycle * 400 + (if month < 10 then 0 else 1)
    month := if month < 10 then month + 3 else month - 9
    day := dayOfYear - daysBeforeMonth month + 1 }

/-- The days of a year before the month after a number of months. -/
def daysOfMonths (year : Int) : (months : Nat) → Nat
  | 0 => 0
  | months + 1 => daysOfMonths year months + daysInMonth year (months + 1)

/-- The day of a date: whole years, the leap days among them, whole months and
the days of the last one. -/
def toDay (d : Date) : Int :=
  let past := d.year - 1
  365 * past + past / 4 - past / 100 + past / 400
    + daysOfMonths d.year (d.month - 1)
    + (d.day - 1) - 719162

/-! ## Weekdays -/

def weekdayNames : List String := ["Sun", "Mon", "Tue", "Wed", "Thu", "Fri", "Sat"]

def monthNames : List String :=
  ["Jan", "Feb", "Mar", "Apr", "May", "Jun", "Jul", "Aug", "Sep", "Oct", "Nov", "Dec"]

/-- The weekday of a day, from Sunday on. The first day of 1970 was a Thursday. -/
def weekday (day : Int) : Nat :=
  ((day + 4) % 7).toNat

end Date

/-! ## Texts -/

/-- A number with at least so many digits. -/
def padded (width n : Nat) : String :=
  let digits := toString n
  String.ofList (List.replicate (width - digits.length) '0') ++ digits

/-- A year: four digits, and a sign when it has more or is negative. -/
def yearText (year : Int) : String :=
  if 0 ≤ year ∧ year ≤ 9999 then padded 4 year.toNat
  else (if year < 0 then "-" else "+") ++ padded 4 year.natAbs

/-- Hours, minutes and seconds of a second of the day; a leap second is the
sixtieth of its minute. -/
def clockText (second : Nat) (leap : Bool) : String :=
  padded 2 (second / 3600) ++ ":" ++ padded 2 (second / 60 % 60) ++ ":" ++
    padded 2 (second % 60 + (if leap then 1 else 0))

/-- A timestamp as cookies write it. -/
def Timestamp.text (t : Timestamp) : String :=
  let day := t.secs / secondsPerDay
  let date := Date.ofDay day
  Date.weekdayNames.getD (Date.weekday day) "" ++ ", " ++ padded 2 date.day ++ " " ++
    Date.monthNames.getD (date.month - 1) "" ++ " " ++ yearText date.year ++ " " ++
    clockText (t.secs % secondsPerDay).toNat (nanosPerSecond ≤ t.nanos) ++ " GMT"

end MenuHost.Time

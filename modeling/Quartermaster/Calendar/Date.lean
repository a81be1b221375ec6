/-!
Dates of the Gregorian calendar, extended to all years without a break. Every date has a number
that counts days, one being the first of January of the year 1, a Monday (`Date.number`).
-/

namespace Quartermaster.Calendar

def firstYear : Int := -262143

def lastYear : Int := 262142

def isLeapYear (year : Int) : Bool :=
  year % 4 = 0 && (year % 100 ≠ 0 || year % 400 = 0)

/-- The number of days of a month; none for what is no month. -/
def daysInMonth (year : Int) : Nat → Nat
  | 1 => 31
  | 2 => if isLeapYear year then 29 else 28
  | 3 => 31
  | 4 => 30
  | 5 => 31
  | 6 => 30
  | 7 => 31
  | 8 => 31
  | 9 => 30
  | 10 => 31
  | 11 => 30
  | 12 => 31
  | _ => 0

def daysInYear (year : Int) : Nat := if isLeapYear year then 366 else 365

def IsDate (year : Int) (month day : Nat) : Prop :=
  firstYear ≤ year ∧ year ≤ lastYear ∧ 1 ≤ day ∧ day ≤ daysInMonth year month

instance (year : Int) (month day : Nat) : Decidable (IsDate year month day) :=
  inferInstanceAs (Decidable (_ ∧ _))

structure Date where
  year : Int
  month : Nat
  day : Nat
  isDate : IsDate year month day
  deriving DecidableEq

inductive Weekday
  | monday
  | tuesday
  | wednesday
  | thursday
  | friday
  | saturday
  | sunday
  deriving DecidableEq, Repr

namespace Weekday

/-- The day of the week at a distance from Monday. -/
def ofIndex (index : Nat) : Weekday :=
  match index % 7 with
  | 0 => .monday
  | 1 => .tuesday
  | 2 => .wednesday
  | 3 => .thursday
  | 4 => .friday
  | 5 => .saturday
  | _ => .sunday

def fromMonday : Weekday → Nat
  | .monday => 0
  | .tuesday => 1
  | .wednesday => 2
  | .thursday => 3
  | .friday => 4
  | .saturday => 5
  | .sunday => 6

def fromSunday (weekday : Weekday) : Nat := (weekday.fromMonday + 1) % 7

end Weekday

namespace Date

def of? (year : Int) (month day : Nat) : Option Date :=
  if h : IsDate year month day then some ⟨year, month, day, h⟩ else none

/-- The day of the year, from one. -/
def ordinal (date : Date) : Nat :=
  let earlier := (List.range (date.month - 1)).map fun month => daysInMonth date.year (month + 1)
  earlier.foldl (· + ·) date.day

/-- Days from the beginning of the year 1 to the beginning of a year. -/
def daysBeforeYear (year : Int) : Int :=
  let past := year - 1
  365 * past + past / 4 - past / 100 + past / 400

def number (date : Date) : Int := daysBeforeYear date.year + date.ordinal

/-- The number of the first of January 1970. -/
def epoch : Int := 719163

def weekday (date : Date) : Weekday :=
  Weekday.ofIndex ((date.number - 1) % 7).toNat

def next? (date : Date) : Option Date :=
  of? date.year date.month (date.day + 1) <|>
    of? date.year (date.month + 1) 1 <|> of? (date.year + 1) 1 1

def previous? (date : Date) : Option Date :=
  of? date.year date.month (date.day - 1) <|>
    of? date.year (date.month - 1) (daysInMonth date.year (date.month - 1)) <|>
    of? (date.year - 1) 12 31

/-! ### Weeks -/

/-- The number of a week by the days before it: that of the week that a given weekday starts. -/
def weekFrom (date : Date) (distance : Nat) : Nat :=
  (date.ordinal + 6 - distance) / 7

/-- The week of the year when weeks start on Sunday; days before the first one are in week zero. -/
def weekFromSunday (date : Date) : Nat := date.weekFrom date.weekday.fromSunday

def weekFromMonday (date : Date) : Nat := date.weekFrom date.weekday.fromMonday

/-- The weeks of a year when a week belongs to the year that has its Thursday. -/
def weeksInYear (year : Int) : Nat :=
  let lastWeekday (year : Int) : Int := (daysBeforeYear (year + 1) - 1) % 7
  if lastWeekday year = 3 ∨ lastWeekday (year - 1) = 2 then 53 else 52

def isoWeek (date : Date) : Int × Nat :=
  let week := (date.ordinal + 9 - date.weekday.fromMonday) / 7
  if week = 0 then (date.year - 1, weeksInYear (date.year - 1))
  else if weeksInYear date.year < week then (date.year + 1, 1)
  else (date.year, week)

def quarter (date : Date) : Nat := (date.month - 1) / 3 + 1

end Date

end Quartermaster.Calendar

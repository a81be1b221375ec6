import Quartermaster.Calendar.Date

/-!
Points in time: a date and a time of day in UTC, down to the nanosecond. Any minute may have a
second numbered sixty, a leap second.

The distance of two points counts a leap second only when the second next to it is passed on the
clock (`Clock.leapBetween`); between days only their number counts.
-/

namespace Quartermaster.Calendar

def nanosPerSecond : Nat := 1000000000

def secondsPerDay : Nat := 86400

/-- Names a time of day; a second numbered sixty is a leap second. -/
def IsClock (hour minute second nano : Nat) : Prop :=
  hour < 24 ∧ minute < 60 ∧ second ≤ 60 ∧ nano < nanosPerSecond

instance (hour minute second nano : Nat) : Decidable (IsClock hour minute second nano) :=
  inferInstanceAs (Decidable (_ ∧ _))

structure Clock where
  hour : Nat
  minute : Nat
  second : Nat
  nano : Nat
  isClock : IsClock hour minute second nano
  deriving DecidableEq

namespace Clock

def of? (hour minute second nano : Nat) : Option Clock :=
  if h : IsClock hour minute second nano then some ⟨hour, minute, second, nano, h⟩ else none

def isLeap (clock : Clock) : Bool := clock.second = 60

/-- Seconds since midnight; a leap second counts as the one before it. -/
def seconds (clock : Clock) : Nat :=
  3600 * clock.hour + 60 * clock.minute + min clock.second 59

/-- Nanoseconds since the second that `seconds` counts to began. -/
def nanos (clock : Clock) : Nat :=
  clock.nano + if clock.isLeap then nanosPerSecond else 0

/-- Leap seconds that lie between two times of day, negative when time runs backward. -/
def leapBetween (first last : Clock) : Int :=
  if first.seconds < last.seconds ∧ first.isLeap then 1
  else if last.seconds < first.seconds ∧ last.isLeap then -1
  else 0

def nanosBetween (first last : Clock) : Int :=
  ((last.seconds : Int) - first.seconds + leapBetween first last) * nanosPerSecond +
    ((last.nanos : Int) - first.nanos)

/-- The hour on a clock face of twelve hours. -/
def hour12 (clock : Clock) : Nat :=
  if clock.hour % 12 = 0 then 12 else clock.hour % 12

def isAfternoon (clock : Clock) : Bool := 12 ≤ clock.hour

end Clock

/-- A point in time in UTC. -/
structure Instant where
  date : Date
  clock : Clock
  deriving DecidableEq

namespace Instant

/-- The numbers of a point in time, the coarsest first. -/
def fields (instant : Instant) : List Int :=
  [instant.date.year, instant.date.month, instant.date.day,
    instant.clock.hour, instant.clock.minute, instant.clock.second, instant.clock.nano]

def isBefore (first second : Instant) : Bool := first.fields < second.fields

def nanosBetween (first last : Instant) : Int :=
  (last.date.number - first.date.number) * secondsPerDay * nanosPerSecond +
    first.clock.nanosBetween last.clock

/-- Seconds since the beginning of 1970; a leap second counts as the one before it. -/
def unixSeconds (instant : Instant) : Int :=
  (instant.date.number - Date.epoch) * secondsPerDay + instant.clock.seconds

/-- The point in time of a clock that is ahead by a number of minutes less than a day. -/
def ofLocal? (date : Date) (clock : Clock) (ahead : Int) : Option Instant := do
  let minutes : Int := 60 * clock.hour + clock.minute - ahead
  let date ←
    if minutes < 0 then date.previous?
    else if 1440 ≤ minutes then date.next?
    else some date
  let minutes := (minutes % 1440).toNat
  let clock ← Clock.of? (minutes / 60) (minutes % 60) clock.second clock.nano
  return ⟨date, clock⟩

end Instant

end Quartermaster.Calendar

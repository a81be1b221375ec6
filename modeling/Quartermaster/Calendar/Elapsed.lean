import Quartermaster.Calendar.Pattern
import Quartermaster.Phrase

/-!
The time between two points in time in words: days, hours and minutes, those that are not zero.
-/

namespace Quartermaster.Calendar

def nanosPerMinute : Nat := 60 * nanosPerSecond

/-- Days, hours and minutes, with less than a day of hours and less than an hour of minutes. -/
structure Elapsed where
  days : Nat
  hours : Nat
  minutes : Nat
  deriving DecidableEq, Repr

namespace Elapsed

def ofMinutes (total : Nat) : Elapsed :=
  ⟨total / 1440, total % 1440 / 60, total % 60⟩

/-- An amount with its unit, in the singular for exactly one; nothing for none. -/
def part? (locale : Locale) (amount : Nat) (singular plural : Phrase) : Option String :=
  if amount = 0 then none
  else
    let unit := if amount = 1 then singular else plural
    some (String.ofList (Text.natural amount) ++ " " ++ unit.text locale)

/-- The parts that are not zero, the largest unit first. -/
def parts (locale : Locale) (elapsed : Elapsed) : List String :=
  [part? locale elapsed.days .day .days, part? locale elapsed.hours .hour .hours,
    part? locale elapsed.minutes .minute .minutes].filterMap id

end Elapsed

def minutesText (locale : Locale) (minutes : Nat) : String :=
  if minutes = 0 then Phrase.lessThanAMinute.text locale
  else " ".intercalate ((Elapsed.ofMinutes minutes).parts locale)

def elapsedText (locale : Locale) (first last : Instant) : Except TimeTextError String :=
  let nanos := first.nanosBetween last
  if nanos < 0 then .error .reversed
  else .ok (minutesText locale (nanos.toNat / nanosPerMinute))

end Quartermaster.Calendar

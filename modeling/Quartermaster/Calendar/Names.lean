import Quartermaster.Calendar.Date
import Quartermaster.Locale

/-!
Names of months and weekdays, and the customary layouts of dates and times.
-/

namespace Quartermaster.Calendar

/-- The name of a month by its number; what is no month has none. -/
def monthName : Locale → Nat → String
  | .english, 1 => "January"
  | .english, 2 => "February"
  | .english, 3 => "March"
  | .english, 4 => "April"
  | .english, 5 => "May"
  | .english, 6 => "June"
  | .english, 7 => "July"
  | .english, 8 => "August"
  | .english, 9 => "September"
  | .english, 10 => "October"
  | .english, 11 => "November"
  | .english, 12 => "December"
  | .spanish, 1 => "enero"
  | .spanish, 2 => "febrero"
  | .spanish, 3 => "marzo"
  | .spanish, 4 => "abril"
  | .spanish, 5 => "mayo"
  | .spanish, 6 => "junio"
  | .spanish, 7 => "julio"
  | .spanish, 8 => "agosto"
  | .spanish, 9 => "septiembre"
  | .spanish, 10 => "octubre"
  | .spanish, 11 => "noviembre"
  | .spanish, 12 => "diciembre"
  | _, _ => ""

def weekdayName : Locale → Weekday → String
  | .english, .monday => "Monday"
  | .english, .tuesday => "Tuesday"
  | .english, .wednesday => "Wednesday"
  | .english, .thursday => "Thursday"
  | .english, .friday => "Friday"
  | .english, .saturday => "Saturday"
  | .english, .sunday => "Sunday"
  | .spanish, .monday => "lunes"
  | .spanish, .tuesday => "martes"
  | .spanish, .wednesday => "miércoles"
  | .spanish, .thursday => "jueves"
  | .spanish, .friday => "viernes"
  | .spanish, .saturday => "sábado"
  | .spanish, .sunday => "domingo"

def shortName (name : String) : List Char := name.toList.take 3

/-- The word for a half of the day. Spanish has none. -/
def halfDayName : Locale → Bool → String
  | .english, false => "AM"
  | .english, true => "PM"
  | .spanish, _ => ""

/-- The customary layout of a date with its time, of a language or where none is given. -/
def dateTimeLayout : Option Locale → String
  | some .english => "%a %d %b %Y %I:%M:%S %p %Z"
  | some .spanish => "%a %d %b %Y %H:%M:%S %Z"
  | none => "%a %b %e %H:%M:%S %Y"

def dateLayout : Option Locale → String
  | some .english => "%m/%d/%Y"
  | some .spanish => "%d/%m/%y"
  | none => "%m/%d/%y"

def timeLayout : Option Locale → String
  | some .english => "%I:%M:%S %p"
  | some .spanish => "%H:%M:%S"
  | none => "%H:%M:%S"

/-- The layout of a time of day on a clock face of twelve hours, where that is customary. -/
def clockFaceLayout : Option Locale → String
  | some locale => timeLayout (some locale)
  | none => "%I:%M:%S %p"

end Quartermaster.Calendar

import Quartermaster.Locale

/-!
The wordings that generated texts are made of.
-/

namespace Quartermaster

inductive Phrase
  | notAvailable
  | unknownCharacter
  | fleetTrackingHint
  | lessThanAMinute
  | day
  | days
  | hour
  | hours
  | minute
  | minutes
  deriving DecidableEq, Repr

namespace Phrase

/-- What stands in the tracking hint for the start time. -/
def startMark : String := "FLEET_START"

def endMark : String := "FLEET_END"

def text : Locale → Phrase → String
  | .english, .notAvailable => "Not available"
  | .english, .unknownCharacter => "Unknown character"
  | .english, .fleetTrackingHint => "Fleet tracked from " ++ startMark ++ " to " ++ endMark
  | .english, .lessThanAMinute => "less than a minute"
  | .english, .day => "day"
  | .english, .days => "days"
  | .english, .hour => "hour"
  | .english, .hours => "hours"
  | .english, .minute => "minute"
  | .english, .minutes => "minutes"
  | .spanish, .notAvailable => "No disponible"
  | .spanish, .unknownCharacter => "Personaje desconocido"
  | .spanish, .fleetTrackingHint => "Flota rastreada desde " ++ startMark ++ " hasta " ++ endMark
  | .spanish, .lessThanAMinute => "menos de un minuto"
  | .spanish, .day => "día"
  | .spanish, .days => "días"
  | .spanish, .hour => "hora"
  | .spanish, .hours => "horas"
  | .spanish, .minute => "minuto"
  | .spanish, .minutes => "minutos"

end Phrase

end Quartermaster

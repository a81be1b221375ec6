import Quartermaster.Calendar.Elapsed
import Quartermaster.Fleet.View
import Quartermaster.Text.Substitution

/-!
What is said of the time during which a fleet was tracked.
-/

namespace Quartermaster.Fleet

open Calendar (Instant TimeTextError)
open Json (Codec Fields)

structure TrackingTexts where
  endText : String
  durationText : String
  hint : String
  deriving DecidableEq, Repr

namespace TrackingTexts

def fields : Fields TrackingTexts TrackingTexts :=
  Fields.done TrackingTexts.mk
    |>.required "fleet_end_eve_time_text" (·.endText) .text
    |>.required "fleet_duration_text" (·.durationText) .text
    |>.required "fleet_tracking_hint" (·.hint) .text

def codec : Codec TrackingTexts := fields.codec

/--
The hint from when to when a fleet was tracked. The start is put in first, and the end in place of
every end mark of the text that comes of it.
-/
def hintText (locale : Locale) (startText endText : String) : String :=
  let hint := (Phrase.fleetTrackingHint.text locale).toList
  let started := Text.substitute Phrase.startMark.toList startText.toList hint
  String.ofList (Text.substitute Phrase.endMark.toList endText.toList started)

def ofInterval (locale : Locale) (pattern : String) (first last : Instant) :
    Except TimeTextError TrackingTexts := do
  let startText ← first.format locale pattern
  let endText ← last.format locale pattern
  let durationText ← Calendar.elapsedText locale first last
  return ⟨endText, durationText, hintText locale startText endText⟩

end TrackingTexts

/--
The texts for a fleet whose tracking has ended; none if there is no such time, or no text for it. A
pattern that cannot be written at all is an error.
-/
def Detail.trackingTexts (locale : Locale) (pattern : String) (fleet : Detail) :
    Except TimeTextError (Option TrackingTexts) :=
  match fleet.tracking.bind fun tracking => tracking.endTime.map (tracking.startTime, ·) with
  | none => .ok none
  | some (first, last) =>
    match TrackingTexts.ofInterval locale pattern first last with
    | .ok texts => .ok (some texts)
    | .error .unwritable => .error .unwritable
    | .error _ => .ok none

end Quartermaster.Fleet

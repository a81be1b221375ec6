import Quartermaster.Fleet.TrackingTexts
import Quartermaster.Proofs.Calendar.Elapsed
import Quartermaster.Proofs.Text.Substitution

/-!
The hint from when to when a fleet was tracked. Its wording has a mark for either time, and the
times are put in one after the other: the end is also put in for an end mark that came with the
start (`hintText_eq_filledHint`). So the hint is its wording with both times as they are just when
no end mark came with the start, or the end is such a mark itself (`hint_filled_iff`).
-/

namespace Quartermaster.Fleet

open Calendar
open Phrase (startMark endMark)
open Text (substitute substituteAll)

variable {locale : Locale} {pattern : String} {fleet : Detail} {texts : TrackingTexts}

/-- The wording of the hint with both times put in at once, each for its own mark. -/
def filledHint (locale : Locale) (startText endText : String) : String :=
  String.ofList (substituteAll
    [(startMark.toList, startText.toList), (endMark.toList, endText.toList)]
    (Phrase.fleetTrackingHint.text locale).toList)

/-- A start time in which the end was put in for every end mark. -/
def withEnd (startText endText : String) : String :=
  String.ofList (substitute endMark.toList endText.toList startText.toList)

/-! ### The wording -/

/-- The words of the hint before the start and between the two times, without blanks at the end. -/
def hintWords : Locale → List Char × List Char
  | .english => ("Fleet tracked from".toList, "to".toList)
  | .spanish => ("Flota rastreada desde".toList, "hasta".toList)

def aroundTimes (locale : Locale) (startText endText : List Char) : List Char :=
  (hintWords locale).1 ++ ' ' :: (startText ++ ' ' :: ((hintWords locale).2 ++ ' ' :: endText))

theorem substituteAll_hint (locale : Locale) (startText endText : List Char) :
    substituteAll [(startMark.toList, startText), (endMark.toList, endText)]
        (Phrase.fleetTrackingHint.text locale).toList =
      aroundTimes locale startText endText := by
  cases locale with
  | english => exact congrArg (aroundTimes .english startText) (List.append_nil endText)
  | spanish => exact congrArg (aroundTimes .spanish startText) (List.append_nil endText)

theorem substitute_startMark_hint (locale : Locale) (startText : List Char) :
    substitute startMark.toList startText (Phrase.fleetTrackingHint.text locale).toList =
      aroundTimes locale startText endMark.toList := by
  cases locale with
  | english => rfl
  | spanish => rfl

theorem endMark_ne_nil : endMark.toList ≠ [] := by decide

/-- Neither the words of the hint nor the blanks around the start hold a part of the end mark. -/
theorem substitute_endMark_hint (locale : Locale) (startText endText : List Char) :
    substitute endMark.toList endText (aroundTimes locale startText endMark.toList) =
      aroundTimes locale (substitute endMark.toList endText startText) endText := by
  -- blanks cut the hint into parts that are searched each by itself
  have apart : ' ' ∉ endMark.toList := by decide
  have words : substitute endMark.toList endText (hintWords locale).1 = (hintWords locale).1 ∧
      substitute endMark.toList endText (hintWords locale).2 = (hintWords locale).2 := by
    cases locale with
    | english => exact ⟨rfl, rfl⟩
    | spanish => exact ⟨rfl, rfl⟩
  have mark : substitute endMark.toList endText endMark.toList = endText :=
    List.append_nil endText
  unfold aroundTimes
  rw [Text.substitute_append_cons endMark_ne_nil apart,
    Text.substitute_append_cons endMark_ne_nil apart,
    Text.substitute_append_cons endMark_ne_nil apart, words.1, words.2, mark]

/-! ### The times in it -/

/-- The end is put in for its mark, and for every other one that came with the start. -/
theorem hintText_eq_filledHint (locale : Locale) (startText endText : String) :
    TrackingTexts.hintText locale startText endText =
      filledHint locale (withEnd startText endText) endText := by
  calc TrackingTexts.hintText locale startText endText
    _ = String.ofList (substitute endMark.toList endText.toList
          (substitute startMark.toList startText.toList
            (Phrase.fleetTrackingHint.text locale).toList)) := rfl
    _ = String.ofList (aroundTimes locale (withEnd startText endText).toList endText.toList) := by
      rw [substitute_startMark_hint, substitute_endMark_hint, withEnd, String.toList_ofList]
    _ = filledHint locale (withEnd startText endText) endText := by
      rw [filledHint, substituteAll_hint]

theorem filledHint_left_inj {startText startText' endText : String} :
    filledHint locale startText endText = filledHint locale startText' endText ↔
      startText = startText' := by
  constructor
  · intro same
    unfold filledHint at same
    rw [substituteAll_hint, substituteAll_hint, String.ofList_inj, aroundTimes, aroundTimes] at same
    have starts := List.append_cancel_left same
    have texts := List.append_cancel_right (List.cons.inj starts).2
    exact String.toList_inj.mp texts
  · rintro rfl
    rfl

theorem withEnd_eq_self_iff {startText endText : String} :
    withEnd startText endText = startText ↔
      ¬endMark.toList <:+: startText.toList ∨ endText = endMark := by
  unfold withEnd
  rw [← String.toList_inj, String.toList_ofList, Text.substitute_eq_self_iff endMark_ne_nil,
    String.toList_inj]

/-! ### The texts of a fleet -/

def Tracked (fleet : Detail) (first last : Instant) : Prop :=
  ∃ tracking, fleet.tracking = some tracking ∧ tracking.startTime = first ∧
    tracking.endTime = some last

theorem ofInterval_eq_ok_iff {first last : Instant} :
    TrackingTexts.ofInterval locale pattern first last = .ok texts ↔
      ∃ startText, first.format locale pattern = .ok startText ∧
        last.format locale pattern = .ok texts.endText ∧
        elapsedText locale first last = .ok texts.durationText ∧
        texts.hint = TrackingTexts.hintText locale startText texts.endText := by
  unfold TrackingTexts.ofInterval
  cases first.format locale pattern with
  | error error => exact iff_of_false nofun nofun
  | ok startText =>
    cases last.format locale pattern with
    | error error => exact iff_of_false nofun nofun
    | ok endText =>
      cases elapsedText locale first last with
      | error error => exact iff_of_false nofun nofun
      | ok durationText =>
        constructor
        · intro made
          cases made
          exact ⟨startText, rfl, rfl, rfl, rfl⟩
        · rintro ⟨_, ⟨⟩, ended, elapsed, told⟩
          obtain rfl := Except.ok.inj ended
          obtain rfl := Except.ok.inj elapsed
          have same : TrackingTexts.mk texts.endText texts.durationText
              (TrackingTexts.hintText locale startText texts.endText) = texts := by
            rw [← told]
          exact congrArg Except.ok same

theorem trackingTexts_eq_some_iff : fleet.trackingTexts locale pattern = .ok (some texts) ↔
    ∃ first last, Tracked fleet first last ∧
      TrackingTexts.ofInterval locale pattern first last = .ok texts := by
  unfold Detail.trackingTexts Tracked
  cases fleet.tracking with
  | none => simp
  | some tracking =>
    cases ended : tracking.endTime with
    | none => simp [ended]
    | some last =>
      simp only [Option.bind_some, ended, Option.map_some]
      constructor
      · intro given
        refine ⟨tracking.startTime, last, ⟨tracking, rfl, rfl, ended⟩, ?_⟩
        cases made : TrackingTexts.ofInterval locale pattern tracking.startTime last with
        | ok found =>
          rw [made] at given
          exact congrArg Except.ok (Option.some.inj (Except.ok.inj given))
        | error error =>
          rw [made] at given
          cases error <;> cases given
      · rintro ⟨_, _, ⟨_, ⟨⟩, rfl, ended'⟩, made⟩
        obtain rfl := Option.some.inj (ended.symm.trans ended')
        rw [made]

/--
The hint of a fleet holds the end of its tracking as it is, and the start with the end put in for
every end mark. So both stand in it as they are just when the start holds no end mark, or the end is
one itself.
-/
theorem hint_filled_iff (given : fleet.trackingTexts locale pattern = .ok (some texts)) :
    ∃ first last startText, Tracked fleet first last ∧
      first.format locale pattern = .ok startText ∧
      last.format locale pattern = .ok texts.endText ∧
      texts.hint = filledHint locale (withEnd startText texts.endText) texts.endText ∧
      (texts.hint = filledHint locale startText texts.endText ↔
        ¬endMark.toList <:+: startText.toList ∨ texts.endText = endMark) := by
  obtain ⟨first, last, tracked, made⟩ := trackingTexts_eq_some_iff.mp given
  obtain ⟨startText, started, ended, -, told⟩ := ofInterval_eq_ok_iff.mp made
  rw [hintText_eq_filledHint] at told
  refine ⟨first, last, startText, tracked, started, ended, told, ?_⟩
  rw [told, filledHint_left_inj, withEnd_eq_self_iff]

/-! ### A pattern with the end mark -/

def eveningStart : Instant := ⟨⟨2025, 1, 2, by decide⟩, ⟨18, 0, 0, 0, by decide⟩⟩

def eveningEnd : Instant := ⟨⟨2025, 1, 2, by decide⟩, ⟨20, 15, 0, 0, by decide⟩⟩

def eveningFleet : Detail where
  id := ⟨1⟩
  description := "Roam"
  commanderId := ⟨9⟩
  commanderName := "FC"
  location := "Amamake"
  startTime := eveningStart
  type := "strategic"
  doctrine := none
  tracking := some ⟨some 1, eveningStart, some eveningEnd, true⟩
  audience := "Militia"
  disableMotd := false
  status := none

/-- The texts of the fleet of one evening, by a pattern that holds the end mark. -/
def eveningTexts : TrackingTexts where
  endText := "FLEET_END 20"
  durationText := minutesText .english (wholeMinutes eveningStart eveningEnd)
  hint := TrackingTexts.hintText .english "FLEET_END 18" "FLEET_END 20"

theorem format_eveningStart : eveningStart.format .english "FLEET_END %H" = .ok "FLEET_END 18" := by
  decide +kernel

theorem format_eveningEnd : eveningEnd.format .english "FLEET_END %H" = .ok "FLEET_END 20" := by
  decide +kernel

theorem trackingTexts_eveningFleet :
    eveningFleet.trackingTexts .english "FLEET_END %H" = .ok (some eveningTexts) := by
  have elapsed : elapsedText .english eveningStart eveningEnd = .ok eveningTexts.durationText :=
    elapsedText_of_forward .english (by decide)
  have made := ofInterval_eq_ok_iff.mpr
    ⟨_, format_eveningStart, format_eveningEnd, elapsed, rfl⟩
  exact trackingTexts_eq_some_iff.mpr ⟨eveningStart, eveningEnd, ⟨_, rfl, rfl, rfl⟩, made⟩

/-- The pattern puts the end mark into the start, and other text into the end. -/
theorem hint_filled_iff_evening :
    eveningFleet.trackingTexts .english "FLEET_END %H" = .ok (some eveningTexts) ∧
      ∃ first last startText, Tracked eveningFleet first last ∧
        first.format .english "FLEET_END %H" = .ok startText ∧
        last.format .english "FLEET_END %H" = .ok eveningTexts.endText ∧
        eveningTexts.hint =
          filledHint .english (withEnd startText eveningTexts.endText) eveningTexts.endText ∧
        (eveningTexts.hint = filledHint .english startText eveningTexts.endText ↔
          ¬endMark.toList <:+: startText.toList ∨ eveningTexts.endText = endMark) :=
  ⟨trackingTexts_eveningFleet, hint_filled_iff trackingTexts_eveningFleet⟩

/-- A start that holds the end mark does not stand in the hint as it is. -/
theorem hint_alters_start : ¬ ∀ (locale : Locale) (pattern : String) (fleet : Detail)
    (texts : TrackingTexts) (first last : Instant) (startText : String),
    fleet.trackingTexts locale pattern = .ok (some texts) → Tracked fleet first last →
      first.format locale pattern = .ok startText →
      last.format locale pattern = .ok texts.endText →
      texts.hint = filledHint locale startText texts.endText := by
  intro filled
  have tracked : Tracked eveningFleet eveningStart eveningEnd := ⟨_, rfl, rfl, rfl⟩
  have unaltered := filled _ _ _ _ _ _ _ trackingTexts_eveningFleet tracked format_eveningStart
    format_eveningEnd
  have told : eveningTexts.hint =
      filledHint .english (withEnd "FLEET_END 18" "FLEET_END 20") "FLEET_END 20" :=
    hintText_eq_filledHint _ _ _
  rw [told, eveningTexts, filledHint_left_inj, withEnd_eq_self_iff] at unaltered
  revert unaltered
  decide

end Quartermaster.Fleet

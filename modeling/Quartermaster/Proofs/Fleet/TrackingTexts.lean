import Quartermaster.Fleet.TrackingTexts
import Quartermaster.Proofs.Calendar.Pattern

/-!
Patterns that break the texts about a fleet. The check of a pattern lets one directive pass that
cannot be written, so a pattern may fail while it is written, and so do the texts of every fleet
whose tracking has ended (`trackingTexts_unwritable_iff`). With every other pattern, known or not, a
fleet has its texts or none.
-/

namespace Quartermaster.Fleet

open Calendar

variable {locale : Locale} {pattern : String} {first last : Instant}

theorem elapsedText_ne_unwritable : elapsedText locale first last ≠ .error .unwritable := by
  rw [elapsedText]
  split
  · nofun
  · nofun

theorem ofInterval_unwritable_iff :
    TrackingTexts.ofInterval locale pattern first last = .error .unwritable ↔
      IsUnwritable pattern := by
  unfold TrackingTexts.ofInterval
  rcases first.format_cases locale pattern with ⟨unknown, read⟩ | ⟨-, writable, text, read⟩ |
    ⟨unwritable, read⟩
  · rw [read]
    exact iff_of_false nofun fun unwritable => by simp [unwritable.1] at unknown
  · rcases last.format_cases locale pattern with ⟨unknown, read'⟩ | ⟨-, -, text', read'⟩ |
      ⟨unwritable, -⟩
    · rw [read, read']
      exact iff_of_false nofun writable
    · rw [read, read']
      refine iff_of_false ?_ writable
      have ends := @elapsedText_ne_unwritable locale first last
      cases elapsed : elapsedText locale first last with
      | ok text => nofun
      | error error =>
        intro failed
        exact ends (elapsed.trans (congrArg Except.error (Except.error.inj failed)))
    · exact absurd unwritable writable
  · rw [read]
    exact iff_of_true rfl unwritable

/--
A pattern fails while it is written just when it passes the check and asks for the lenient zone; any
other is written, or is named in the error. The texts of a fleet fail with it just when the tracking
of the fleet has ended; else there are texts or none.
-/
theorem trackingTexts_unwritable_iff (locale : Locale) (pattern : String) :
    (∀ instant : Instant,
      (instant.format locale pattern = .error (.invalidPattern pattern) ↔
        isKnown pattern.toList = false) ∧
      ((∃ text, instant.format locale pattern = .ok text) ↔
        isKnown pattern.toList = true ∧ ¬IsUnwritable pattern) ∧
      (instant.format locale pattern = .error .unwritable ↔ IsUnwritable pattern)) ∧
    ∀ fleet : Detail,
      (fleet.trackingTexts locale pattern = .error .unwritable ↔
        IsUnwritable pattern ∧ (fleet.tracking.bind Tracking.endTime).isSome) ∧
      ((∃ texts, fleet.trackingTexts locale pattern = .ok texts) ↔
        ¬(IsUnwritable pattern ∧ (fleet.tracking.bind Tracking.endTime).isSome)) := by
  constructor
  · intro instant
    rcases instant.format_cases locale pattern with ⟨unknown, read⟩ | ⟨known, writable, text, read⟩ |
      ⟨unwritable, read⟩
    · have writable : ¬IsUnwritable pattern := fun unwritable => by simp [unwritable.1] at unknown
      simp [read, unknown, writable]
    · simp [read, known, writable]
    · simp [read, unwritable, unwritable.1]
  · intro fleet
    unfold Detail.trackingTexts
    cases tracked : fleet.tracking with
    | none => simp
    | some tracking =>
      cases ended : tracking.endTime with
      | none => simp [ended]
      | some last =>
        have writes := @ofInterval_unwritable_iff locale pattern tracking.startTime last
        simp only [Option.bind_some, ended, Option.map_some, Option.isSome_some, and_true, ← writes]
        cases TrackingTexts.ofInterval locale pattern tracking.startTime last with
        | ok texts => simp
        | error error => cases error <;> simp

/-- A pattern for reading zones passes its check and is then neither written nor named. -/
theorem lenient_zone_breaks_format : ¬ ∀ (locale : Locale) (instant : Instant) (pattern : String),
    (∃ text, instant.format locale pattern = .ok text) ∨
      instant.format locale pattern = .error (.invalidPattern pattern) := by
  intro total
  have known : isKnown "%#z".toList = true := isKnown_iff.mpr ⟨_, .directive .lenientZone .nil⟩
  have unwritable : IsUnwritable "%#z" := ⟨known, [], [], rfl, isKnown_iff.mpr ⟨_, .nil⟩⟩
  let instant : Instant := ⟨⟨2025, 3, 4, by decide⟩, ⟨18, 30, 0, 0, by decide⟩⟩
  have outcome := total .english instant "%#z"
  rw [Instant.format_unwritable_iff.mpr unwritable] at outcome
  simp at outcome

end Quartermaster.Fleet

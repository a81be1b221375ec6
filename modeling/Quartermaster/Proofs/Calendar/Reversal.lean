import Quartermaster.Calendar.Elapsed
import Quartermaster.Proofs.Calendar.Order

/-!
Intervals that end before they start. Between two days only their number counts, so the leap second
that ends a day is no part of the distance to the next day: a point in it seems to lie as far behind
midnight as it lies behind the start of the leap second. From there to the first second of the next
day an interval may be taken for a reversed one, and back a reversed one for a proper one. All
others are told apart by the order of their ends (`elapsedText_reversed_iff`).
-/

namespace Quartermaster.Calendar

/-- One point lies in a leap second that ends a day, the other in the first second of the next day. -/
structure AcrossLeapMidnight (earlier later : Instant) : Prop where
  nextDay : later.date.number = earlier.date.number + 1
  leapSecond : earlier.clock.hour = 23 ∧ earlier.clock.minute = 59 ∧ earlier.clock.second = 60
  firstSecond : later.clock.hour = 0 ∧ later.clock.minute = 0 ∧ later.clock.second = 0

theorem acrossLeapMidnight_iff {earlier later : Instant} : AcrossLeapMidnight earlier later ↔
    later.date.number = earlier.date.number + 1 ∧
      (earlier.clock.seconds = 86399 ∧ earlier.clock.isLeap = true) ∧ later.clock.seconds = 0 := by
  obtain ⟨hour, minute, second, -⟩ := earlier.clock.isClock
  obtain ⟨hour', minute', second', -⟩ := later.clock.isClock
  simp only [Clock.seconds, Clock.isLeap, decide_eq_true_eq]
  constructor
  · rintro ⟨nextDay, leapSecond, firstSecond⟩
    omega
  · intro across
    constructor <;> omega

variable {first last : Instant}

/-- The distance of two points has the sign of their order, except across a leap second that ends a
day, where it is that of their nanoseconds. -/
theorem nanosBetween_neg_iff : first.nanosBetween last < 0 ↔
    last.isBefore first = true ∧
        ¬(AcrossLeapMidnight last first ∧ first.clock.nano ≤ last.clock.nano) ∨
      AcrossLeapMidnight first last ∧ last.clock.nano < first.clock.nano := by
  have bound := first.clock.seconds_lt
  have bound' := last.clock.seconds_lt
  obtain ⟨-, -, -, nano⟩ := first.clock.isClock
  obtain ⟨-, -, -, nano'⟩ := last.clock.isClock
  have kinds := first.clock.nanos_cases
  have kinds' := last.clock.nanos_cases
  rw [Instant.isBefore_iff, acrossLeapMidnight_iff, acrossLeapMidnight_iff]
  simp only [Instant.nanosBetween, Clock.nanosBetween, Clock.leapBetween]
  unfold secondsPerDay at *
  unfold nanosPerSecond at *
  -- which leap seconds count depends on whether each end lies in one and on which is passed first
  rcases kinds with ⟨leap, nanos⟩ | ⟨leap, nanos, lastOfMinute⟩
  all_goals rcases kinds' with ⟨leap', nanos'⟩ | ⟨leap', nanos', lastOfMinute'⟩
  all_goals simp only [leap, leap', nanos, nanos', Bool.false_eq_true, and_true, and_false,
    if_false, false_and, not_false_eq_true, or_false]
  all_goals (repeat' split)
  all_goals omega

/--
An interval is rejected just when it ends before it starts, except across a leap second that ends a
day: from there on to the next day it is rejected when the nanoseconds of its end are fewer, and
back from the next day it is not rejected unless they are.
-/
theorem elapsedText_reversed_iff (locale : Locale) (first last : Instant) :
    elapsedText locale first last = .error .reversed ↔
      last.isBefore first = true ∧
          ¬(AcrossLeapMidnight last first ∧ first.clock.nano ≤ last.clock.nano) ∨
        AcrossLeapMidnight first last ∧ last.clock.nano < first.clock.nano := by
  rw [← nanosBetween_neg_iff, elapsedText]
  split
  · rename_i negative
    exact iff_of_true rfl negative
  · rename_i proper
    exact iff_of_false nofun proper

/-- From midnight to a point in the leap second before it is taken for a proper interval. -/
theorem midnight_before_leap_second : ¬ ∀ (locale : Locale) (first last : Instant),
    elapsedText locale first last = .error .reversed ↔ last.isBefore first = true := by
  intro rejected
  have wrong := rejected .english ⟨⟨2017, 1, 1, by decide⟩, ⟨0, 0, 0, 0, by decide⟩⟩
    ⟨⟨2016, 12, 31, by decide⟩, ⟨23, 59, 60, 500000000, by decide⟩⟩
  revert wrong
  decide

end Quartermaster.Calendar

import Mathlib.Algebra.Order.Ring.Int
import Quartermaster.Proofs.Calendar.Timestamp

/-!
The order of points in time. Days are numbered in the order of their years, months and days
(`Date.number_lt_iff`), and times of day are in the order of their seconds and nanoseconds
(`Clock.fields_lt_iff`), so a point in time lies before another just when the first of these three
numbers in which they differ is less (`Instant.isBefore_iff`).
-/

namespace Quartermaster.Calendar

/-! ### Days -/

theorem daysBeforeYear_succ (year : Int) :
    Date.daysBeforeYear (year + 1) = Date.daysBeforeYear year + daysInYear year := by
  simp only [Date.daysBeforeYear, daysInYear, isLeapYear, Bool.and_eq_true, Bool.or_eq_true,
    decide_eq_true_eq]
  split <;> omega

theorem daysBeforeYear_add_le {year later : Int} (less : year < later) :
    Date.daysBeforeYear year + daysInYear year ≤ Date.daysBeforeYear later := by
  induction later, less using Int.leInduction with
  | base => exact (daysBeforeYear_succ year).ge
  | succ later _ ih =>
    have next := daysBeforeYear_succ later
    omega

def daysBeforeMonth (year : Int) (month : Nat) : Nat :=
  ((List.range (month - 1)).map fun earlier => daysInMonth year (earlier + 1)).sum

theorem daysBeforeMonth_succ (year : Int) {month : Nat} (some : 1 ≤ month) :
    daysBeforeMonth year (month + 1) = daysBeforeMonth year month + daysInMonth year month := by
  obtain ⟨before, rfl⟩ := Nat.exists_eq_add_of_le' some
  simp [daysBeforeMonth, List.range_succ]

theorem daysBeforeMonth_add_le (year : Int) {month later : Nat} (some : 1 ≤ month)
    (less : month < later) :
    daysBeforeMonth year month + daysInMonth year month ≤ daysBeforeMonth year later := by
  induction later, less using Nat.le_induction with
  | base => exact (daysBeforeMonth_succ year some).ge
  | succ later after ih =>
    have next := daysBeforeMonth_succ year (Nat.one_le_of_lt after)
    omega

theorem daysBeforeMonth_thirteen (year : Int) : daysBeforeMonth year 13 = daysInYear year := by
  simp only [daysBeforeMonth, daysInYear]
  split <;> simp [List.range_succ, daysInMonth, *]

namespace Date

variable {first second : Date}

theorem month_pos (date : Date) : 1 ≤ date.month := by
  obtain ⟨-, -, some, days⟩ := date.isDate
  refine Nat.pos_of_ne_zero fun none => ?_
  have nothing : daysInMonth date.year 0 = 0 := rfl
  rw [none, nothing] at days
  omega

theorem ordinal_eq (date : Date) :
    date.ordinal = date.day + daysBeforeMonth date.year date.month := by
  simp only [ordinal, daysBeforeMonth, List.sum_eq_foldl, ← List.foldl_assoc, Nat.add_zero]

theorem ordinal_le (date : Date) : date.ordinal ≤ daysInYear date.year := by
  obtain ⟨-, -, some, days⟩ := date.isDate
  have within := daysBeforeMonth_add_le date.year date.month_pos
    (Nat.lt_succ_of_le (le_twelve_of_daysInMonth (Nat.lt_of_lt_of_le some days)))
  rw [daysBeforeMonth_thirteen] at within
  rw [ordinal_eq]
  omega

theorem ordinal_lt_of_month_lt (sameYear : first.year = second.year)
    (less : first.month < second.month) : first.ordinal < second.ordinal := by
  obtain ⟨-, -, -, days⟩ := first.isDate
  obtain ⟨-, -, some, -⟩ := second.isDate
  have within := daysBeforeMonth_add_le first.year first.month_pos less
  rw [ordinal_eq, ordinal_eq, ← sameYear]
  omega

theorem number_lt_of_year_lt (less : first.year < second.year) : first.number < second.number := by
  obtain ⟨-, -, some, -⟩ := second.isDate
  have within := daysBeforeYear_add_le less
  have last := first.ordinal_le
  have begun := second.ordinal_eq
  rw [number, number]
  omega

/-- Days are numbered in the order of their years, months and days. -/
theorem number_lt_iff : first.number < second.number ↔
    first.year < second.year ∨ first.year = second.year ∧
      (first.month < second.month ∨ first.month = second.month ∧ first.day < second.day) := by
  rcases Int.lt_trichotomy first.year second.year with less | same | more
  · have numbered := number_lt_of_year_lt less
    omega
  · rcases Nat.lt_trichotomy first.month second.month with less | sameMonth | more
    · have counted := ordinal_lt_of_month_lt same less
      rw [number, number, same]
      omega
    · rw [number, number, ordinal_eq, ordinal_eq, same, sameMonth]
      omega
    · have counted := ordinal_lt_of_month_lt same.symm more
      rw [number, number, same]
      omega
  · have numbered := number_lt_of_year_lt more
    omega

theorem number_eq_iff : first.number = second.number ↔
    first.year = second.year ∧ first.month = second.month ∧ first.day = second.day := by
  have before : first.number < second.number ↔ _ := number_lt_iff
  have behind : second.number < first.number ↔ _ := number_lt_iff
  omega

end Date

/-! ### Times of day -/

namespace Clock

variable {first second : Clock}

theorem seconds_lt (clock : Clock) : clock.seconds < secondsPerDay := by
  obtain ⟨hour, minute, -, -⟩ := clock.isClock
  rw [seconds, secondsPerDay]
  omega

/-- Nanoseconds go on beyond a second only in a leap second, which is the last of its minute. -/
theorem nanos_cases (clock : Clock) :
    clock.isLeap = false ∧ clock.nanos = clock.nano ∨
      clock.isLeap = true ∧ clock.nanos = clock.nano + nanosPerSecond ∧ clock.seconds % 60 = 59 := by
  by_cases leap : clock.second = 60
  · right
    refine ⟨by simp [isLeap, leap], by simp [nanos, isLeap, leap], ?_⟩
    rw [seconds, leap]
    omega
  · left
    simp [nanos, isLeap, leap]

theorem fields_lt_iff :
    (first.hour < second.hour ∨ first.hour = second.hour ∧
      (first.minute < second.minute ∨ first.minute = second.minute ∧
        (first.second < second.second ∨ first.second = second.second ∧
          first.nano < second.nano))) ↔
      first.seconds < second.seconds ∨ first.seconds = second.seconds ∧
        first.nanos < second.nanos := by
  obtain ⟨hour, minute, within, nano⟩ := first.isClock
  obtain ⟨hour', minute', within', nano'⟩ := second.isClock
  simp only [seconds, nanos, isLeap, decide_eq_true_eq]
  split <;> split <;> omega

end Clock

/-! ### Points in time -/

/-- A point in time lies before another when its day, its second or its nanosecond is earlier. -/
theorem Instant.isBefore_iff {first second : Instant} : first.isBefore second = true ↔
    first.date.number < second.date.number ∨ first.date.number = second.date.number ∧
      (first.clock.seconds < second.clock.seconds ∨ first.clock.seconds = second.clock.seconds ∧
        first.clock.nanos < second.clock.nanos) := by
  rw [← Clock.fields_lt_iff, Date.number_lt_iff, Date.number_eq_iff]
  simp only [isBefore, fields, decide_eq_true_eq, List.cons_lt_cons_iff, List.not_lt_nil,
    Int.ofNat_lt, Int.ofNat_inj]
  tauto

end Quartermaster.Calendar

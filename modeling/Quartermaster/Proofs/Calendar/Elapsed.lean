import Quartermaster.Calendar.Elapsed
import Quartermaster.Proofs.Text.Numeral

/-!
Times between two points in words. The words are those of the days, hours and minutes that are not
zero (`minutesText_eq`), and the number of minutes can be read back from them
(`readMinutes_minutesText`), so in one language two times have the same words just when they have
the same whole minutes (`elapsedText_minutes`).
-/

namespace Quartermaster.Calendar

open Text

/-! ### Amounts -/

inductive TimeUnit
  | day
  | hour
  | minute

def TimeUnit.minutes : TimeUnit → Nat
  | .day => 1440
  | .hour => 60
  | .minute => 1

/-- The name of a unit, in the singular for exactly one of it. -/
def TimeUnit.name (locale : Locale) (count : Nat) : TimeUnit → String
  | .day => (if count = 1 then Phrase.day else .days).text locale
  | .hour => (if count = 1 then Phrase.hour else .hours).text locale
  | .minute => (if count = 1 then Phrase.minute else .minutes).text locale

structure Amount where
  count : Nat
  unit : TimeUnit

namespace Amount

def minutes (amount : Amount) : Nat := amount.count * amount.unit.minutes

def text (locale : Locale) (amount : Amount) : String :=
  String.ofList (natural amount.count) ++ " " ++ amount.unit.name locale amount.count

def words (locale : Locale) (amount : Amount) : List (List Char) :=
  [natural amount.count, (amount.unit.name locale amount.count).toList]

end Amount

/-- Days, hours and minutes, without those that are zero. -/
def nonzeroAmounts (days hours minutes : Nat) : List Amount :=
  [⟨days, .day⟩, ⟨hours, .hour⟩, ⟨minutes, .minute⟩].filter (·.count ≠ 0)

def wholeMinutes (first last : Instant) : Nat := (first.nanosBetween last).toNat / nanosPerMinute

/-! ### The words -/

/-- What is put into words one by one, but for zeros, are the amounts that are not zero. -/
theorem filterMap_texts (locale : Locale) (amounts : List Amount) :
    (amounts.map fun amount =>
        if amount.count = 0 then none else some (amount.text locale)).filterMap id =
      (amounts.filter (·.count ≠ 0)).map (Amount.text locale) := by
  induction amounts with
  | nil => rfl
  | cons amount rest ih =>
    rw [List.map_cons]
    by_cases none : amount.count = 0
    · simpa [none] using ih
    · simpa [none] using ih

theorem parts_eq (locale : Locale) (days hours minutes : Nat) :
    Elapsed.parts locale ⟨days, hours, minutes⟩ =
      (nonzeroAmounts days hours minutes).map (Amount.text locale) :=
  filterMap_texts locale [⟨days, .day⟩, ⟨hours, .hour⟩, ⟨minutes, .minute⟩]

theorem minutesText_eq (locale : Locale) {minutes : Nat} (some : minutes ≠ 0) :
    minutesText locale minutes = " ".intercalate
      ((nonzeroAmounts (minutes / 1440) (minutes % 1440 / 60) (minutes % 60)).map
        (Amount.text locale)) := by
  rw [minutesText, if_neg some, ← parts_eq]
  rfl

/-! ### Reading the words -/

/-- The minutes of a unit by its name; what is no name of a unit has none. -/
def minutesOfUnit (locale : Locale) (word : List Char) : Nat :=
  if word ∈ [Phrase.day, .days].map fun phrase => (phrase.text locale).toList then 1440
  else if word ∈ [Phrase.hour, .hours].map fun phrase => (phrase.text locale).toList then 60
  else if word ∈ [Phrase.minute, .minutes].map fun phrase => (phrase.text locale).toList then 1
  else 0

/-- The number of a numeral; what is no numeral counts as zero. -/
def countOfWord (word : List Char) : Nat := ((allDigits? word).map ofDigits).getD 0

/-- The minutes of words that are numbers and names of units in turn. -/
def minutesOfWords (locale : Locale) : List (List Char) → Nat
  | count :: unit :: rest =>
    countOfWord count * minutesOfUnit locale unit + minutesOfWords locale rest
  | _ => 0

def readMinutes (locale : Locale) (text : String) : Nat :=
  minutesOfWords locale (text.toList.splitOn ' ')

theorem minutesOfUnit_name (locale : Locale) (count : Nat) (unit : TimeUnit) :
    minutesOfUnit locale (unit.name locale count).toList = unit.minutes := by
  by_cases single : count = 1 <;> cases unit <;> cases locale <;>
    simp only [TimeUnit.name, single, if_true, if_false] <;> decide

theorem countOfWord_natural (n : Nat) : countOfWord (natural n) = n := by
  rw [countOfWord, allDigits?_natural, Option.map_some, Option.getD_some, ofDigits_digits]

theorem minutesOfWords_words (locale : Locale) (amounts : List Amount) :
    minutesOfWords locale (amounts.flatMap (Amount.words locale)) =
      (amounts.map Amount.minutes).sum := by
  induction amounts with
  | nil => rfl
  | cons amount rest ih =>
    rw [List.flatMap_cons, Amount.words, List.cons_append, List.cons_append, List.nil_append,
      minutesOfWords, countOfWord_natural, minutesOfUnit_name, ih, List.map_cons, List.sum_cons,
      Amount.minutes]

theorem blank_not_mem_words {locale : Locale} {amount : Amount} {word : List Char}
    (member : word ∈ amount.words locale) : ' ' ∉ word := by
  obtain ⟨count, unit⟩ := amount
  simp only [Amount.words, List.mem_cons, List.not_mem_nil, or_false] at member
  rcases member with rfl | rfl
  · intro blank
    obtain ⟨d, -, same⟩ := List.mem_map.mp blank
    revert same
    revert d
    decide
  · by_cases single : count = 1 <;> cases unit <;> cases locale <;>
      simp only [TimeUnit.name, single, if_true, if_false] <;> decide

/-- Between the words of an amount stands a blank as between amounts. -/
theorem intercalate_words (locale : Locale) (amounts : List Amount) :
    [' '].intercalate (amounts.flatMap (Amount.words locale)) =
      [' '].intercalate (amounts.map fun amount => (amount.text locale).toList) := by
  induction amounts with
  | nil => rfl
  | cons amount rest ih =>
    cases rest with
    | nil => simp [Amount.words, Amount.text]
    | cons next others =>
      have split (first : Amount) (more : List Amount) :
          (first :: more).flatMap (Amount.words locale) = natural first.count ::
            (first.unit.name locale first.count).toList ::
              more.flatMap (Amount.words locale) := rfl
      rw [split, split, List.intercalate_cons_cons, List.intercalate_cons_cons, ← split, ih]
      simp [Amount.text, List.intercalate_cons_cons]

theorem splitOn_text (locale : Locale) {amounts : List Amount} (some : amounts ≠ []) :
    (" ".intercalate (amounts.map (Amount.text locale))).toList.splitOn ' ' =
      amounts.flatMap (Amount.words locale) := by
  have joined : (" ".intercalate (amounts.map (Amount.text locale))).toList =
      [' '].intercalate (amounts.flatMap (Amount.words locale)) := by
    rw [intercalate_words, String.toList_intercalate, List.map_map]
    rfl
  rw [joined, List.splitOn_intercalate]
  · intro word member
    obtain ⟨amount, -, inside⟩ := List.mem_flatMap.mp member
    exact blank_not_mem_words inside
  · obtain ⟨first, rest, rfl⟩ := List.exists_cons_of_ne_nil some
    simp [Amount.words]

theorem sum_filter_nonzero (amounts : List Amount) :
    ((amounts.filter (·.count ≠ 0)).map Amount.minutes).sum =
      (amounts.map Amount.minutes).sum := by
  induction amounts with
  | nil => rfl
  | cons amount rest ih =>
    rw [List.map_cons, List.sum_cons, ← ih]
    by_cases none : amount.count = 0
    · simp [none, Amount.minutes]
    · simp [none]

theorem sum_nonzeroAmounts (days hours minutes : Nat) :
    ((nonzeroAmounts days hours minutes).map Amount.minutes).sum =
      1440 * days + 60 * hours + minutes := by
  rw [nonzeroAmounts, sum_filter_nonzero]
  simp only [List.map_cons, List.map_nil, List.sum_cons, List.sum_nil, Amount.minutes,
    TimeUnit.minutes]
  omega

/-- The words for a number of minutes state it. -/
theorem readMinutes_minutesText (locale : Locale) (minutes : Nat) :
    readMinutes locale (minutesText locale minutes) = minutes := by
  rcases Nat.eq_zero_or_pos minutes with rfl | some
  · cases locale <;> decide
  · have sum := sum_nonzeroAmounts (minutes / 1440) (minutes % 1440 / 60) (minutes % 60)
    have nonempty : nonzeroAmounts (minutes / 1440) (minutes % 1440 / 60) (minutes % 60) ≠ [] := by
      intro none
      rw [none] at sum
      simp at sum
      omega
    rw [minutesText_eq locale (Nat.ne_of_gt some), readMinutes, splitOn_text locale nonempty,
      minutesOfWords_words, sum]
    omega

/-! ### Times between two points -/

/-- The words for a number of minutes: a phrase of its own for none, and otherwise the days, hours
and minutes that are not zero, each with the name of its unit in the singular for exactly one. -/
structure SaysMinutes (locale : Locale) (minutes : Nat) (text : String) : Prop where
  none : minutes = 0 → text = Phrase.lessThanAMinute.text locale
  some : minutes ≠ 0 → ∃ days hours rest, hours < 24 ∧ rest < 60 ∧
    1440 * days + 60 * hours + rest = minutes ∧
      text = " ".intercalate ((nonzeroAmounts days hours rest).map (Amount.text locale))

theorem saysMinutes_minutesText (locale : Locale) (minutes : Nat) :
    SaysMinutes locale minutes (minutesText locale minutes) where
  none none := by rw [minutesText, if_pos none]
  some some := ⟨minutes / 1440, minutes % 1440 / 60, minutes % 60, by omega, by omega, by omega,
    minutesText_eq locale some⟩

theorem minutesText_injective (locale : Locale) : Function.Injective (minutesText locale) :=
  Function.LeftInverse.injective (readMinutes_minutesText locale)

variable {first last : Instant}

theorem elapsedText_of_forward (locale : Locale) (forward : 0 ≤ first.nanosBetween last) :
    elapsedText locale first last = .ok (minutesText locale (wholeMinutes first last)) :=
  if_neg (Int.not_lt.mpr forward)

/--
The words for the time from one point to a later one are those of the whole minutes between them,
and two such times have the same words just when they have the same whole minutes.
-/
theorem elapsedText_minutes (locale : Locale) (forward : 0 ≤ first.nanosBetween last) :
    ∃ text, elapsedText locale first last = .ok text ∧
      SaysMinutes locale (wholeMinutes first last) text ∧
      ∀ first' last' : Instant, 0 ≤ first'.nanosBetween last' →
        (elapsedText locale first' last' = .ok text ↔
          wholeMinutes first' last' = wholeMinutes first last) := by
  refine ⟨_, elapsedText_of_forward locale forward, saysMinutes_minutesText locale _, ?_⟩
  intro first' last' forward'
  rw [elapsedText_of_forward locale forward', Except.ok.injEq,
    (minutesText_injective locale).eq_iff]

def beforeLeapDay : Instant := ⟨⟨2024, 2, 28, by decide⟩, ⟨23, 59, 30, 0, by decide⟩⟩

def afterLeapDay : Instant := ⟨⟨2024, 3, 1, by decide⟩, ⟨1, 0, 31, 0, by decide⟩⟩

/-- A time of which each part is one. -/
theorem elapsedText_minutes_leapDay : 0 ≤ beforeLeapDay.nanosBetween afterLeapDay ∧
    ∃ text, elapsedText .spanish beforeLeapDay afterLeapDay = .ok text ∧
      SaysMinutes .spanish (wholeMinutes beforeLeapDay afterLeapDay) text ∧
      ∀ first' last' : Instant, 0 ≤ first'.nanosBetween last' →
        (elapsedText .spanish first' last' = .ok text ↔
          wholeMinutes first' last' = wholeMinutes beforeLeapDay afterLeapDay) :=
  ⟨by decide, elapsedText_minutes .spanish (by decide)⟩

end Quartermaster.Calendar

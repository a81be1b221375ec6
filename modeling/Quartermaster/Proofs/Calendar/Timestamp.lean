import Quartermaster.Calendar.Timestamp
import Quartermaster.Proofs.Text.Blank
import Quartermaster.Proofs.Text.Numeral

/-!
Timestamps read back as the points in time they were written for (`Instant.parse?_text`): years of
any size, leap seconds and every number of nanoseconds included.
-/

namespace Quartermaster.Calendar
open Text

/-! ### Dates -/

theorem readDigits?_append {most : Nat} {ds : List Digit} (some : ds ≠ []) (fits : ds.length ≤ most)
    {rest : List Char} (stops : NoDigit rest) :
    readDigits? most (ds.map digitChar ++ rest) = .some (ds, rest) := by
  rw [readDigits?, spanDigits_append ds stops, List.take_of_length_le fits]
  cases ds with
  | nil => contradiction
  | cons d ds => simp

theorem readShort?_fixedWidth {n : Nat} (small : n < 100) {rest : List Char}
    (stops : NoDigit rest) :
    readShort? (fixedWidth 2 n ++ rest) = some (n, rest) := by
  have some := lastDigits_ne_nil Nat.two_pos n
  rw [readShort?, fixedWidth_eq, trimStart_digits some,
    readDigits?_append some (by simp) stops, Option.map_some]
  simp [ofDigits_lastDigits 2 small]

theorem readMark?_cons {mark : Char} (visible : isBlank mark = false) (rest : List Char) :
    readMark? mark (mark :: rest) = some ((), rest) := by
  simp [readMark?, trimStart_cons visible]

theorem readYear?_signed {ds : List Digit} (some : ds ≠ []) {rest : List Char}
    (stops : NoDigit rest) :
    readYear?.signed (ds.map digitChar ++ rest) = .some (ofDigits ds, rest) := by
  rw [readYear?.signed, spanDigits_append ds stops]
  cases ds with
  | nil => contradiction
  | cons d ds => rfl

theorem readYear?_plain {ds : List Digit} (some : ds ≠ []) (fits : ds.length ≤ 4)
    {rest : List Char} (stops : NoDigit rest) :
    readYear? (ds.map digitChar ++ rest) = .some ((ofDigits ds : Int), rest) := by
  have read := readDigits?_append some fits stops
  cases ds with
  | nil => contradiction
  | cons d ds =>
    obtain ⟨notMinus, notPlus⟩ := digitChar_ne_sign d
    rw [readYear?, trimStart_digits some]
    split
    · rename_i same
      exact absurd (List.cons.inj same).1 notMinus
    · rename_i same
      exact absurd (List.cons.inj same).1 notPlus
    · rw [read]
      rfl

/-- The digits of the size of a year, at least four of them. -/
theorem exists_yearDigits (n : Nat) : ∃ ds : List Digit, ds ≠ [] ∧ ofDigits ds = n ∧
    (if n < 10000 then fixedWidth 4 n else natural n) = ds.map digitChar := by
  split
  · rename_i small
    exact ⟨lastDigits 4 n, lastDigits_ne_nil (by decide) n, ofDigits_lastDigits 4 small,
      fixedWidth_eq 4 n⟩
  · exact ⟨digits n, digits_ne_nil n, ofDigits_digits n, rfl⟩

theorem readYear?_yearText (year : Int) {rest : List Char} (stops : NoDigit rest) :
    readYear? (yearText year ++ rest) = some (year, rest) := by
  unfold yearText
  split
  · rename_i plain
    have small : year.toNat < 10 ^ 4 := by omega
    rw [fixedWidth_eq, readYear?_plain (lastDigits_ne_nil (by decide) _) (by simp) stops,
      ofDigits_lastDigits 4 small, Int.toNat_of_nonneg plain.1]
  · generalize absolute : year.natAbs = size
    obtain ⟨ds, some, value, same⟩ := exists_yearDigits size
    have read := readYear?_signed some stops
    simp only [same]
    split
    · simp [readYear?, trimStart_cons, isBlank, read, value]
      omega
    · simp [readYear?, trimStart_cons, isBlank, read, value]
      omega

theorem daysInMonth_le (year : Int) (month : Nat) : daysInMonth year month ≤ 31 := by
  unfold daysInMonth
  split <;> try split
  all_goals decide

theorem le_twelve_of_daysInMonth {year : Int} {month : Nat} (some : 0 < daysInMonth year month) :
    month ≤ 12 := by
  unfold daysInMonth at some
  split at some <;> omega

theorem Date.month_lt (date : Date) : date.month < 100 := by
  obtain ⟨-, -, some, days⟩ := date.isDate
  have := le_twelve_of_daysInMonth (Nat.lt_of_lt_of_le some days)
  omega

theorem Date.day_lt (date : Date) : date.day < 100 := by
  obtain ⟨-, -, -, days⟩ := date.isDate
  have := daysInMonth_le date.year date.month
  omega

theorem Date.of?_self (date : Date) : Date.of? date.year date.month date.day = some date :=
  dif_pos date.isDate

def dateText (date : Date) : List Char :=
  yearText date.year ++ '-' :: fixedWidth 2 date.month ++ '-' :: fixedWidth 2 date.day

theorem readDate?_dateText (date : Date) {rest : List Char} (stops : NoDigit rest) :
    readDate? (dateText date ++ rest) = some (some date, rest) := by
  have dash (more : List Char) : NoDigit ('-' :: more) := .cons rfl
  have mark (more : List Char) : readMark? '-' ('-' :: more) = some ((), more) :=
    readMark?_cons rfl more
  have year (more : List Char) := readYear?_yearText date.year (dash more)
  have month (more : List Char) := readShort?_fixedWidth date.month_lt (dash more)
  have day := readShort?_fixedWidth date.day_lt stops
  simp [readDate?, dateText, year, month, day, mark, date.of?_self]

/-! ### Times of day -/

theorem Clock.of?_self (clock : Clock) :
    Clock.of? clock.hour clock.minute clock.second clock.nano = some clock :=
  dif_pos clock.isClock

/-- The digits of a fraction, filled up with zeros to nine, are its nanoseconds. -/
theorem exists_fractionDigits {nano : Nat} (some : nano ≠ 0) (fits : nano < nanosPerSecond) :
    ∃ ds : List Digit, ds ≠ [] ∧ ds.length ≤ 9 ∧ fractionDigits nano = ds.map digitChar ∧
      ofDigits ds * Nat.pow 10 (9 - ds.length) = nano := by
  unfold nanosPerSecond at fits
  unfold fractionDigits
  rw [if_neg some]
  split
  · rename_i whole
    refine ⟨lastDigits 3 (nano / 1000000), lastDigits_ne_nil (by decide) _, by simp,
      fixedWidth_eq _ _, ?_⟩
    rw [ofDigits_lastDigits 3 (by omega), length_lastDigits]
    simp
    omega
  · split
    · rename_i whole
      refine ⟨lastDigits 6 (nano / 1000), lastDigits_ne_nil (by decide) _, by simp,
        fixedWidth_eq _ _, ?_⟩
      rw [ofDigits_lastDigits 6 (by omega), length_lastDigits]
      simp
      omega
    · refine ⟨lastDigits 9 nano, lastDigits_ne_nil (by decide) _, by simp, fixedWidth_eq _ _, ?_⟩
      rw [ofDigits_lastDigits 9 (by omega), length_lastDigits]
      simp

theorem readFraction?_fractionText {nano : Nat} (fits : nano < nanosPerSecond) {rest : List Char}
    (stops : NoDigit rest) (noPoint : ∀ c ∈ rest.head?, c ≠ '.') :
    readFraction? (fractionText '.' nano ++ rest) = some (nano, rest) := by
  by_cases none : nano = 0
  · rw [fractionText, if_pos none, List.nil_append, readFraction?, none]
    rintro tail rfl
    exact noPoint '.' rfl rfl
  · obtain ⟨ds, some, short, same, value⟩ := exists_fractionDigits none fits
    rw [fractionText, if_neg none, same, List.cons_append, readFraction?,
      spanDigits_append ds stops]
    cases ds with
    | nil => exact absurd rfl some
    | cons d ds => simp only [List.take_of_length_le short, value]

theorem noDigit_fractionText (nano : Nat) {rest : List Char} (stops : NoDigit rest) :
    NoDigit (fractionText '.' nano ++ rest) := by
  unfold fractionText
  split
  · exact stops
  · exact NoDigit.cons rfl

def clockText (clock : Clock) : List Char :=
  fixedWidth 2 clock.hour ++ ':' :: fixedWidth 2 clock.minute ++ ':' :: fixedWidth 2 clock.second ++
    fractionText '.' clock.nano

theorem readClock?_clockText (clock : Clock) {rest : List Char} (stops : NoDigit rest)
    (noPoint : ∀ c ∈ rest.head?, c ≠ '.') :
    readClock? (clockText clock ++ rest) = some (some clock, rest) := by
  obtain ⟨hours, minutes, seconds, nanos⟩ := clock.isClock
  have colon (more : List Char) : NoDigit (':' :: more) := .cons rfl
  have mark (more : List Char) : readMark? ':' (':' :: more) = some ((), more) :=
    readMark?_cons rfl more
  have hour (more : List Char) :=
    readShort?_fixedWidth (show clock.hour < 100 by omega) (colon more)
  have minute (more : List Char) :=
    readShort?_fixedWidth (show clock.minute < 100 by omega) (colon more)
  have second := readShort?_fixedWidth (show clock.second < 100 by omega)
    (noDigit_fractionText clock.nano stops)
  have fraction := readFraction?_fractionText nanos stops noPoint
  simp [readClock?, clockText, hour, minute, second, fraction, mark, clock.of?_self]

/-! ### Timestamps -/

theorem dateTimeText_eq (instant : Instant) :
    dateTimeText instant = dateText instant.date ++ 'T' :: clockText instant.clock := by
  simp [dateTimeText, dateText, clockText]

theorem ofLocal?_utc (date : Date) (clock : Clock) :
    Instant.ofLocal? date clock 0 = some ⟨date, clock⟩ := by
  obtain ⟨hour, minute, -, -⟩ := clock.isClock
  have hours : (60 * clock.hour + clock.minute) / 60 = clock.hour := by omega
  have minutes : (60 * clock.hour + clock.minute) % 60 = clock.minute := by omega
  have day : ((60 * clock.hour + clock.minute : Int) - 0) % 1440 =
    ((60 * clock.hour + clock.minute : Nat) : Int) := by omega
  simp only [Instant.ofLocal?]
  rw [if_neg (by omega), if_neg (by omega), day, Int.toNat_natCast, hours, minutes, clock.of?_self]
  rfl

/-- The timestamp of a point in time is read back as the point in time. -/
theorem Instant.parse?_text (instant : Instant) : Instant.parse? instant.text = some instant := by
  have date (more : List Char) : readDate? (dateText instant.date ++ 'T' :: more) = _ :=
    readDate?_dateText instant.date (.cons rfl)
  have separator (more : List Char) : readSeparator? ('T' :: more) = some ((), more) := rfl
  have clock : readClock? (clockText instant.clock ++ ['Z']) = _ :=
    readClock?_clockText instant.clock (.cons rfl) (by simp)
  have zone : readZone? (trimStart ['Z']) = some (0, []) := rfl
  unfold Instant.parse?
  rw [Instant.text, String.toList_ofList, dateTimeText_eq, List.append_assoc, List.cons_append]
  refine Option.bind_eq_some_iff.mpr ⟨_, date _, ?_⟩
  refine Option.bind_eq_some_iff.mpr ⟨_, separator _, ?_⟩
  refine Option.bind_eq_some_iff.mpr ⟨_, clock, ?_⟩
  refine Option.bind_eq_some_iff.mpr ⟨_, zone, ?_⟩
  refine Option.bind_eq_some_iff.mpr ⟨(), rfl, ?_⟩
  exact ofLocal?_utc instant.date instant.clock

end Quartermaster.Calendar

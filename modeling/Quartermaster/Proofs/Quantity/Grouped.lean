import Quartermaster.Proofs.Double.Whole
import Quartermaster.Quantity.Grouped

/-!
Numbers with grouped digits. Without its marks the text of a number is the numeral of what the
number is rounded to, and marks stand between the thousands alone (`grouped_by_thousands`). Spanish
groups from ten thousand on, so it looks at the size of an integer; that of the least one is no
integer of 64 bits, and the number has no text (`least_unwritable_in_spanish`).
-/

namespace Quartermaster.Quantity

open Text

/-! ### Marks between thousands -/

/--
Digits with a mark between the digits `i + 1` and `i`, counted from the right, just when `i` is a
multiple of three.
-/
def markThousands (mark : Char) : List Char → List Char
  | [] => []
  | [last] => [last]
  | digit :: next :: rest =>
    if (rest.length + 1) % 3 = 0 then digit :: mark :: markThousands mark (next :: rest)
    else digit :: markThousands mark (next :: rest)

section Marks

variable {mark : Char} {numeral : List Char}

theorem markThousands_append (mark a b c : Char) {front : List Char} (some : front ≠ []) :
    markThousands mark (front ++ [a, b, c]) = markThousands mark front ++ [mark, a, b, c] := by
  induction front with
  | nil => contradiction
  | cons digit rest ih =>
    cases rest with
    | nil => simp [markThousands]
    | cons next rest =>
      have behind := ih (List.cons_ne_nil next rest)
      rw [List.cons_append] at behind
      have same : ((rest ++ [a, b, c]).length + 1) % 3 = (rest.length + 1) % 3 := by
        simp only [List.length_append, List.length_cons, List.length_nil]
        omega
      rw [List.cons_append, List.cons_append, markThousands, markThousands, same, behind]
      split <;> simp

theorem reverse_spread (mark : Char) (fromRight : List Char) :
    (groupDigits.spread mark fromRight).reverse = markThousands mark fromRight.reverse := by
  induction fromRight using groupDigits.spread.induct with
  | case1 a b c d rest ih =>
    have digits : (a :: b :: c :: d :: rest).reverse = (d :: rest).reverse ++ [c, b, a] := by simp
    rw [groupDigits.spread, digits, markThousands_append _ _ _ _ (by simp), ← ih]
    simp
  | case2 few short =>
    rw [groupDigits.spread]
    · rcases few with _ | ⟨a, _ | ⟨b, _ | ⟨c, _ | ⟨d, rest⟩⟩⟩⟩
      · rfl
      · rfl
      · rfl
      · rfl
      · exact (short a b c d rest rfl).elim
    · exact short

theorem groupDigits_eq (mark : Char) (numeral : List Char) :
    groupDigits mark numeral = markThousands mark numeral := by
  rw [groupDigits, reverse_spread, List.reverse_reverse]

theorem filter_markThousands (unmarked : ∀ c ∈ numeral, c ≠ mark) :
    (markThousands mark numeral).filter (· ≠ mark) = numeral := by
  induction numeral with
  | nil => rfl
  | cons digit rest ih =>
    have kept := unmarked digit List.mem_cons_self
    have behind := ih fun c member => unmarked c (.tail _ member)
    cases rest with
    | nil => simp [markThousands, kept]
    | cons next rest =>
      rw [markThousands]
      split
      · rw [List.filter_cons_of_pos (by simpa using kept), List.filter_cons_of_neg (by simp), behind]
      · rw [List.filter_cons_of_pos (by simpa using kept), behind]

end Marks

/-! ### Numerals -/

section Numerals

variable {locale : Locale} {i : Int} {c : Char}

theorem eq_of_mem_integer (member : c ∈ integer i) : c = '-' ∨ ∃ d, c = digitChar d := by
  have figure (inside : c ∈ natural i.natAbs) : ∃ d, c = digitChar d := by
    obtain ⟨d, -, rfl⟩ := List.mem_map.mp inside
    exact ⟨d, rfl⟩
  unfold integer at member
  split at member
  · rcases List.mem_cons.mp member with rfl | inside
    · exact .inl rfl
    · exact .inr (figure inside)
  · exact .inr (figure member)

theorem ne_groupMark (locale : Locale) (member : c ∈ integer i) : c ≠ locale.groupMark := by
  have digit (d : Digit) : digitChar d ≠ locale.groupMark := by
    revert d
    cases locale <;> decide
  rcases eq_of_mem_integer member with rfl | ⟨d, rfl⟩
  · cases locale <;> decide
  · exact digit d

theorem filter_integer (locale : Locale) (i : Int) :
    (integer i).filter (· ≠ locale.groupMark) = integer i := by
  refine List.filter_eq_self.mpr fun c member => ?_
  simpa using ne_groupMark locale member

theorem integer_eq (i : Int) :
    integer i = (if i < 0 then ['-'] else []) ++ natural i.natAbs := by
  rw [integer]
  split <;> simp

theorem filter_groupInteger (locale : Locale) (i : Int) :
    (groupInteger locale.groupMark i).filter (· ≠ locale.groupMark) = integer i := by
  have kept : ∀ c ∈ natural i.natAbs, c ≠ locale.groupMark := by
    intro c member
    apply ne_groupMark locale (i := i.natAbs)
    rwa [integer_natCast]
  have sign : (if i < 0 then ['-'] else []).filter (· ≠ locale.groupMark) =
      if i < 0 then ['-'] else [] := by
    cases locale <;> split <;> rfl
  rw [groupInteger, groupDigits_eq, List.filter_append, filter_markThousands kept, sign, integer_eq]

end Numerals

/-! ### Where Spanish groups -/

section Spanish

variable {locale : Locale} {x y : Double} {text : String}

theorem size_eq (word : Int64) :
    size word = if word.toInt = -2 ^ 63 then .error .sizeOverflow else .ok word.abs := by
  have least : word = Int64.minValue ↔ word.toInt = -2 ^ 63 := by
    rw [← Int64.toInt_inj, Int64.toInt_minValue]
  simp only [size, least]

/-- The size of any integer but the least one is that of its value. -/
theorem abs_lt_iff {word : Int64} (sized : word.toInt ≠ -2 ^ 63) :
    word.abs < ungroupedBelow ↔ word.toInt.natAbs < 10000 := by
  have limit : ungroupedBelow.toInt = 10000 := by decide
  have held : word.toBitVec ≠ BitVec.intMin 64 := by
    intro least
    exact sized (congrArg BitVec.toInt least)
  have value : word.abs.toInt = word.toBitVec.abs.toInt := congrArg BitVec.toInt word.toBitVec_abs
  rw [BitVec.toInt_abs_eq_natAbs, if_neg held] at value
  have same : word.toBitVec.toInt = word.toInt := rfl
  rw [Int64.lt_iff_toInt_lt, value, same, limit]
  omega

/-- English groups every integer, and Spanish those from ten thousand on. -/
def layout (locale : Locale) (i : Int) : List Char :=
  if locale = .english ∨ 10000 ≤ i.natAbs then groupInteger locale.groupMark i else integer i

theorem filter_layout (locale : Locale) (i : Int) :
    (layout locale i).filter (· ≠ locale.groupMark) = integer i := by
  unfold layout
  split
  · exact filter_groupInteger locale i
  · exact filter_integer locale i

/-- A number has a text unless its size is compared and overflows. -/
theorem grouped_eq (locale : Locale) (x : Double) :
    grouped locale x =
      if locale = .spanish ∧ x.roundInt64.toInt = -2 ^ 63 then .error .sizeOverflow
      else .ok (String.ofList (layout locale x.roundInt64.toInt)) := by
  cases locale with
  | english => simp [grouped, isUngrouped, layout, Except.map]
  | spanish =>
    by_cases overflow : x.roundInt64.toInt = -2 ^ 63
    · simp only [grouped, isUngrouped, size_eq, overflow, and_self, if_true, Except.map]
    · have small := abs_lt_iff overflow
      simp only [grouped, isUngrouped, size_eq, overflow, and_false, if_false, Except.map, layout,
        decide_eq_true_eq, reduceCtorEq, false_or, small, ← not_lt, ite_not]

theorem grouped_eq_error_iff {error : GroupingError} : grouped locale x = .error error ↔
    locale = .spanish ∧ x.roundInt64.toInt = -2 ^ 63 := by
  rw [grouped_eq]
  split
  · rename_i overflow
    exact iff_of_true rfl overflow
  · rename_i fits
    exact iff_of_false nofun fits

theorem grouped_eq_ok_iff : grouped locale x = .ok text ↔
    ¬(locale = .spanish ∧ x.roundInt64.toInt = -2 ^ 63) ∧
      String.ofList (layout locale x.roundInt64.toInt) = text := by
  rw [grouped_eq]
  split
  · rename_i overflow
    exact iff_of_false nofun fun written => written.1 overflow
  · rename_i fits
    rw [Except.ok.injEq]
    exact (and_iff_right fits).symm

theorem filter_of_grouped (written : grouped locale x = .ok text) :
    text.toList.filter (· ≠ locale.groupMark) = integer x.roundInt64.toInt := by
  obtain ⟨-, rfl⟩ := grouped_eq_ok_iff.mp written
  rw [String.toList_ofList, filter_layout]

theorem grouped_eq_iff : grouped locale x = grouped locale y ↔ x.roundInt64 = y.roundInt64 := by
  constructor
  · intro same
    apply Int64.toInt_inj.mp
    cases written : grouped locale y with
    | error overflow =>
      rw [written, grouped_eq_error_iff] at same
      rw [grouped_eq_error_iff] at written
      exact same.2.trans written.2.symm
    | ok text =>
      have bare := filter_of_grouped (same.trans written)
      rw [filter_of_grouped written] at bare
      exact (integer_injective bare).symm
  · intro same
    rw [grouped_eq, grouped_eq, same]

/-- The text of a whole number states it just when the number has few significant bits. -/
theorem filter_grouped_ofInt_iff {word : Int64}
    (written : grouped locale (.ofInt word.toInt) = .ok text) :
    text.toList.filter (· ≠ locale.groupMark) = integer word.toInt ↔
      (∃ significand < 2 ^ 53, ∃ shift, word.toInt.natAbs = significand * 2 ^ shift) ∨
        word = Int64.maxValue := by
  have fits : word.toInt.natAbs ≤ 2 ^ 63 := by
    have low := word.le_toInt
    have high := word.toInt_lt
    omega
  have largest : word.toInt = 2 ^ 63 - 1 ↔ word = Int64.maxValue := by
    rw [← Int64.toInt_inj, Int64.toInt_maxValue]
  rw [filter_of_grouped written, integer_injective.eq_iff, Int64.toInt_inj,
    Double.roundInt64_ofInt_eq_iff, Double.IsHeld, Double.representable_whole_iff fits, largest]

end Spanish

/--
A number has a text unless Spanish rounds it to the least integer. Without its marks the text is the
numeral of what the number is rounded to; marks stand between thousands, in Spanish only from ten
thousand on.
-/
theorem grouped_by_thousands (locale : Locale) (x : Double) :
    let rounded := x.roundWithin (-2 ^ 63) (2 ^ 63 - 1)
    ((∃ text, grouped locale x = .ok text) ↔ ¬(locale = .spanish ∧ rounded = -2 ^ 63)) ∧
    (grouped locale x = .error .sizeOverflow ↔ locale = .spanish ∧ rounded = -2 ^ 63) ∧
    ∀ text, grouped locale x = .ok text →
      text.toList.filter (· ≠ locale.groupMark) = integer rounded ∧
      text.toList = if locale = .english ∨ 10000 ≤ rounded.natAbs then
          (if rounded < 0 then ['-'] else []) ++
            markThousands locale.groupMark (natural rounded.natAbs)
        else integer rounded := by
  intro rounded
  have value : x.roundInt64.toInt = rounded := Double.toInt_roundInt64 x
  have success (text : String) : grouped locale x = .ok text ↔ _ := grouped_eq_ok_iff
  have overflow : grouped locale x = .error .sizeOverflow ↔ _ := grouped_eq_error_iff
  rw [value] at overflow
  simp only [value] at success
  refine ⟨?_, overflow, fun text written => ⟨?_, ?_⟩⟩
  · constructor
    · rintro ⟨text, written⟩
      exact ((success text).mp written).1
    · intro fits
      exact ⟨_, (success _).mpr ⟨fits, rfl⟩⟩
  · rw [← value]
    exact filter_of_grouped written
  · rw [← ((success text).mp written).2, String.toList_ofList, layout, groupInteger, groupDigits_eq]

example : grouped .spanish (.ofInt (-12345)) = .ok "-12.345" := by decide +kernel

/-- The least integer cannot be written in Spanish. -/
theorem least_unwritable_in_spanish :
    ¬ ∀ (locale : Locale) (x : Double), ∃ text, grouped locale x = .ok text := by
  intro total
  obtain ⟨text, written⟩ := total .spanish (.ofInt (-9223372036854775808))
  have overflow : grouped .spanish (.ofInt (-9223372036854775808)) = .error .sizeOverflow := by
    decide +kernel
  rw [overflow] at written
  cases written

end Quartermaster.Quantity

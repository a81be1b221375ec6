import Mathlib.Algebra.Ring.Nat
import Mathlib.Data.List.Induction
import Mathlib.Tactic.Ring
import Quartermaster.Identifier

/-!
Numerals read back as the numbers they were written for, so that two numbers, and two identifiers
of one kind, never have the same numeral. Without zeros in front a numeral is as large as its length
says.
-/

namespace Quartermaster.Text

theorem digits_ne_nil (n : Nat) : digits n ≠ [] := by
  rw [digits]
  split <;> simp

theorem head_digits {n : Nat} (large : 10 ≤ n) :
    ∃ d e rest, digits n = d :: e :: rest ∧ d ≠ Digit.zero := by
  induction n using Nat.strongRecOn with
  | ind n ih =>
    rw [digits, dif_neg (by omega)]
    by_cases small : n / 10 < 10
    · rw [digits, dif_pos small]
      refine ⟨_, _, [], rfl, ?_⟩
      simp [Digit.zero, Fin.ext_iff]
      omega
    · obtain ⟨d, e, rest, same, positive⟩ := ih (n / 10) (by omega) (by omega)
      exact ⟨d, e, rest ++ [_], by rw [same]; rfl, positive⟩

/-- The only character that stands for a digit is the one of its numeral. -/
theorem charDigit?_eq_some_iff {c : Char} {d : Digit} :
    charDigit? c = some d ↔ c = digitChar d := by
  constructor
  · intro read
    simp only [charDigit?, Option.dite_none_right_eq_some, Option.some.injEq] at read
    obtain ⟨⟨low, high⟩, rfl⟩ := read
    have code : 48 + (c.toNat - 48) = c.toNat := by omega
    rw [digitChar, code, Char.ofNat_toNat]
  · rintro rfl
    exact charDigit?_digitChar d

theorem isDigit_digitChar (d : Digit) : (digitChar d).isDigit = true := by
  revert d
  decide

/-- Does not go on with a digit. -/
def NoDigit (text : List Char) : Prop := ∀ c ∈ text.head?, charDigit? c = none

theorem NoDigit.nil : NoDigit [] := nofun

theorem NoDigit.cons {c : Char} {rest : List Char} (other : charDigit? c = none) :
    NoDigit (c :: rest) := by
  rintro d ⟨⟩
  exact other

theorem spanDigits_append (ds : List Digit) {rest : List Char} (stops : NoDigit rest) :
    spanDigits (ds.map digitChar ++ rest) = (ds, rest) := by
  induction ds with
  | nil =>
    cases rest with
    | nil => rfl
    | cons c rest => simp [spanDigits, stops c rfl]
  | cons d ds ih => simp [spanDigits, charDigit?_digitChar, ih]

theorem eq_of_spanDigits (text : List Char) :
    text = (spanDigits text).1.map digitChar ++ (spanDigits text).2 := by
  induction text with
  | nil => rfl
  | cons c rest ih =>
    cases read : charDigit? c with
    | none => simp [spanDigits, read]
    | some d =>
      rw [charDigit?_eq_some_iff] at read
      subst read
      simpa [spanDigits, charDigit?_digitChar] using ih

theorem spanDigits_natural (n : Nat) {rest : List Char} (stops : NoDigit rest) :
    spanDigits (natural n ++ rest) = (digits n, rest) :=
  spanDigits_append (digits n) stops

theorem allDigits?_eq_some_iff {text : List Char} {ds : List Digit} :
    allDigits? text = some ds ↔ ds ≠ [] ∧ text = ds.map digitChar := by
  constructor
  · intro read
    have whole := eq_of_spanDigits text
    unfold allDigits? at read
    split at read
    · rename_i d others split
      rw [split, List.append_nil] at whole
      cases read
      exact ⟨List.cons_ne_nil d others, whole⟩
    · contradiction
  · rintro ⟨some, rfl⟩
    have read := spanDigits_append ds NoDigit.nil
    rw [List.append_nil] at read
    rw [allDigits?, read]
    cases ds with
    | nil => contradiction
    | cons d others => rfl

theorem allDigits?_natural (n : Nat) : allDigits? (natural n) = some (digits n) :=
  allDigits?_eq_some_iff.mpr ⟨digits_ne_nil n, rfl⟩

theorem digitChar_ne_sign (d : Digit) : digitChar d ≠ '-' ∧ digitChar d ≠ '+' := by
  revert d
  decide

/-- A text denotes an integer: by digits, at least one, behind a sign or not. -/
inductive Denotes : List Char → Int → Prop
  | unsigned {ds : List Digit} (some : ds ≠ []) : Denotes (ds.map digitChar) (ofDigits ds)
  | positive {ds : List Digit} (some : ds ≠ []) : Denotes ('+' :: ds.map digitChar) (ofDigits ds)
  | negative {ds : List Digit} (some : ds ≠ []) : Denotes ('-' :: ds.map digitChar) (-ofDigits ds)

theorem readInteger?_digits {ds : List Digit} (some : ds ≠ []) :
    readInteger? (ds.map digitChar) = .some (ofDigits ds) := by
  have read : allDigits? (ds.map digitChar) = .some ds := allDigits?_eq_some_iff.mpr ⟨some, rfl⟩
  cases ds with
  | nil => contradiction
  | cons d others =>
    obtain ⟨notMinus, notPlus⟩ := digitChar_ne_sign d
    rw [List.map_cons] at read ⊢
    rw [readInteger?, read]
    · rfl
    · exact fun _ same => notMinus (List.cons.inj same).1
    · exact fun _ same => notPlus (List.cons.inj same).1

theorem readInteger?_eq_some_iff {text : List Char} {i : Int} :
    readInteger? text = some i ↔ Denotes text i := by
  constructor
  · intro read
    unfold readInteger? at read
    split at read <;> obtain ⟨ds, found, rfl⟩ := Option.map_eq_some_iff.mp read <;>
      obtain ⟨some, rfl⟩ := allDigits?_eq_some_iff.mp found
    · exact .negative some
    · exact .positive some
    · exact .unsigned some
  · rintro (some | some | some)
    · exact readInteger?_digits some
    · rw [readInteger?, allDigits?_eq_some_iff.mpr ⟨some, rfl⟩, Option.map_some]
    · rw [readInteger?, allDigits?_eq_some_iff.mpr ⟨some, rfl⟩, Option.map_some]

theorem readInteger?_natural (n : Nat) : readInteger? (natural n) = some (n : Int) := by
  rw [natural, readInteger?_digits (digits_ne_nil n), ofDigits_digits]

theorem readInteger?_integer (i : Int) : readInteger? (integer i) = some i := by
  unfold integer
  split
  · rename_i negative
    rw [readInteger?, allDigits?_natural]
    simp only [Option.map_some, ofDigits_digits]
    congr 1
    omega
  · rename_i notNegative
    rw [readInteger?_natural]
    congr 1
    omega

theorem int64?_eq_some_iff {i : Int} {word : Int64} : int64? i = some word ↔ i = word.toInt := by
  constructor
  · intro fits
    unfold int64? at fits
    split at fits
    · rename_i within
      obtain ⟨low, high⟩ := within
      rw [Int64.toInt_minValue] at low
      rw [Int64.toInt_maxValue] at high
      cases fits
      exact (Int64.toInt_ofInt_of_le low (by omega)).symm
    · contradiction
  · rintro rfl
    exact int64?_toInt word

theorem readInt64?_eq_some_iff {text : List Char} {word : Int64} :
    readInt64? text = some word ↔ Denotes text word.toInt := by
  rw [readInt64?, Option.bind_eq_some_iff]
  constructor
  · rintro ⟨i, read, fits⟩
    rw [readInteger?_eq_some_iff] at read
    rw [int64?_eq_some_iff] at fits
    exact fits ▸ read
  · intro denotes
    exact ⟨word.toInt, readInteger?_eq_some_iff.mpr denotes, int64?_toInt word⟩

theorem integer_natCast (n : Nat) : integer n = natural n := by
  rw [integer, if_neg (by omega), Int.natAbs_natCast]

theorem integer_injective : Function.Injective integer := fun i j same => by
  have read := readInteger?_integer i
  rw [same, readInteger?_integer] at read
  exact (Option.some.inj read).symm

/-- Where a numeral stops, it and what follows can be told from the whole text. -/
theorem natural_append_inj {m n : Nat} {rest rest' : List Char} (stops : NoDigit rest)
    (stops' : NoDigit rest') (same : natural m ++ rest = natural n ++ rest') :
    m = n ∧ rest = rest' := by
  have read := spanDigits_natural m stops
  rw [same, spanDigits_natural n stops'] at read
  obtain ⟨sameDigits, sameRest⟩ := Prod.mk.inj read
  refine ⟨?_, sameRest.symm⟩
  rw [← ofDigits_digits m, ← sameDigits, ofDigits_digits]

theorem natural_append_ne_minus (n : Nat) (rest more : List Char) :
    natural n ++ rest ≠ '-' :: more := by
  cases found : digits n with
  | nil => exact absurd found (digits_ne_nil n)
  | cons d ds =>
    rw [natural, found]
    exact fun same => (digitChar_ne_sign d).1 (List.cons.inj same).1

/-- A sign is read before any digit, so that the mark of a negative number is never taken for more. -/
theorem integer_append_inj {i j : Int} {rest rest' : List Char} (stops : NoDigit rest)
    (stops' : NoDigit rest') (same : integer i ++ rest = integer j ++ rest') :
    i = j ∧ rest = rest' := by
  unfold integer at same
  split at same <;> split at same
  · obtain ⟨sizes, rests⟩ := natural_append_inj stops stops' (List.cons.inj same).2
    exact ⟨by omega, rests⟩
  · exact absurd same.symm (natural_append_ne_minus _ _ _)
  · exact absurd same (natural_append_ne_minus _ _ _)
  · obtain ⟨sizes, rests⟩ := natural_append_inj stops stops' same
    exact ⟨by omega, rests⟩

theorem int64_injective : Function.Injective int64 := fun _ _ same =>
  Int64.toInt_inj.mp (integer_injective (String.ofList_injective same))

/-! ### Sizes of numerals -/

theorem ofDigits_cons (d : Digit) (ds : List Digit) :
    ofDigits (d :: ds) = d.val * 10 ^ ds.length + ofDigits ds := by
  induction ds using List.reverseRecOn with
  | nil => simp [ofDigits]
  | append_singleton front last ih =>
    rw [← List.cons_append, ofDigits_concat, ofDigits_concat, ih, List.length_append,
      List.length_singleton, Nat.pow_succ]
    ring

theorem ofDigits_lt (ds : List Digit) : ofDigits ds < 10 ^ ds.length := by
  induction ds with
  | nil => exact Nat.one_pos
  | cons d ds ih =>
    have digit : d.val + 1 ≤ 10 := d.isLt
    calc ofDigits (d :: ds) = d.val * 10 ^ ds.length + ofDigits ds := ofDigits_cons d ds
      _ < d.val * 10 ^ ds.length + 10 ^ ds.length := Nat.add_lt_add_left ih _
      _ = (d.val + 1) * 10 ^ ds.length := by ring
      _ ≤ 10 * 10 ^ ds.length := Nat.mul_le_mul_right _ digit
      _ = 10 ^ (d :: ds).length := by rw [List.length_cons, Nat.pow_succ, Nat.mul_comm]

/-- A numeral without zeros in front is as large as its length says. -/
theorem ten_pow_le_ofDigits {d : Digit} (nonzero : d ≠ Digit.zero) (ds : List Digit) :
    10 ^ ds.length ≤ ofDigits (d :: ds) := by
  have positive : 1 ≤ d.val := Nat.pos_of_ne_zero fun none => nonzero (Fin.ext none)
  have leading : 1 * 10 ^ ds.length ≤ d.val * 10 ^ ds.length := Nat.mul_le_mul_right _ positive
  rw [ofDigits_cons]
  omega

theorem ofDigits_dropWhile_zero (ds : List Digit) :
    ofDigits (ds.dropWhile (· = Digit.zero)) = ofDigits ds := by
  induction ds with
  | nil => rfl
  | cons d ds ih =>
    by_cases zero : d = Digit.zero
    · subst zero
      rw [List.dropWhile_cons_of_pos (by simp), ih, ofDigits_cons]
      simp [Digit.zero]
    · rw [List.dropWhile_cons_of_neg (by simpa using zero)]

/-! ### Numerals of one width -/

/-- The last digits of a number, zeros in front if it has fewer. -/
def lastDigits : Nat → Nat → List Digit
  | 0, _ => []
  | width + 1, n => lastDigits width (n / 10) ++ [Fin.ofNat 10 n]

theorem fixedWidth_eq (width n : Nat) :
    fixedWidth width n = (lastDigits width n).map digitChar := by
  induction width generalizing n with
  | zero => rfl
  | succ width ih =>
    rw [fixedWidth, lastDigits, List.map_append, ih]
    rfl

@[simp] theorem length_lastDigits (width n : Nat) : (lastDigits width n).length = width := by
  induction width generalizing n with
  | zero => rfl
  | succ width ih => simp [lastDigits, ih]

theorem lastDigits_ne_nil {width : Nat} (some : 0 < width) (n : Nat) : lastDigits width n ≠ [] :=
  List.ne_nil_of_length_pos (by simpa using some)

theorem ofDigits_lastDigits (width : Nat) {n : Nat} (fits : n < 10 ^ width) :
    ofDigits (lastDigits width n) = n := by
  induction width generalizing n with
  | zero =>
    simp at fits
    simp [lastDigits, ofDigits, fits]
  | succ width ih =>
    rw [lastDigits, ofDigits_concat, ih (by rw [Nat.pow_succ] at fits; omega)]
    exact Nat.div_add_mod n 10

end Quartermaster.Text

namespace Quartermaster.Identifier

theorem toInt_injective {kind : Kind} :
    Function.Injective (toInt : Identifier kind → Int) := fun first second same => by
  cases first
  cases second
  exact congrArg mk (Int64.toInt_inj.mp same)

theorem text_injective {kind : Kind} :
    Function.Injective (text : Identifier kind → String) := fun first second same => by
  cases first
  cases second
  exact congrArg mk (Text.int64_injective same)

end Quartermaster.Identifier

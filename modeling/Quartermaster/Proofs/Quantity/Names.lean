import Quartermaster.Proofs.Double.Shortest
import Quartermaster.Proofs.Quantity.Compact

/-!
Names of all numbers. Every finite double of at least a thousand has a well-formed name, however
large it is: a numeral of at least one with at most one decimal, below a thousand except for the
largest magnitude, and a magnitude word (`compact_wellFormed`). What is computed on the way is
held within 64 and 128 bits, but the digit and the marker are those of integers of any size.
-/

namespace Quartermaster.Quantity

open Double (HasSize clamp fine nearest roundedPart tenth)
open Text

def numeralText (locale : Locale) (whole tenths : Nat) : List Char :=
  if tenths = 0 then natural whole else natural whole ++ locale.decimalMark :: natural tenths

/-- What the name of a number says: how many whole and tenths of which magnitude. -/
structure Name where
  marked : Bool
  whole : Nat
  tenths : Nat
  magnitude : Magnitude
  singular : Bool
  one_le_whole : 1 ≤ whole
  tenths_lt_ten : tenths < 10
  whole_lt_thousand : magnitude ≠ .trillion → whole < 1000

namespace Name

def text (locale : Locale) (name : Name) : String :=
  let text := String.ofList (numeralText locale name.whole name.tenths) ++ " " ++
    name.magnitude.word locale name.singular
  if name.marked then "≈ " ++ text else text

end Name

/-- Ten times a number, rounded to an integer of any size; none if the product overflows. -/
def tenfold? (x : Double) : Option Int :=
  match x.mul ten with
  | .finite negative grains _ => some (Double.signedGrains negative (roundedPart grains))
  | _ => none

/-- A name is that of a number of which it states so many tenths of its magnitude. From 1024 on the
digit is that of a difference of doubles. -/
structure Name.Names (name : Name) (x : Double) (tenths : Nat) : Prop where
  magnitude : name.magnitude = magnitudeOf x
  tenfold : tenfold? (mantissa x name.magnitude) = some (tenths : Int)
  numeral : tenths < 10240 → tenths = 10 * name.whole + name.tenths
  singular : name.singular = true ↔ tenths = 10
  marked : name.marked = false ↔
    tenths * name.magnitude.size < 2 ^ 127 ∧
      tenfold? x = some ((tenths * name.magnitude.size : Nat) : Int)

/-! ### The marker -/

section Marker

variable {x : Double} {grains : Nat} (size : HasSize x grains)

include size

theorem tenfold?_of_lt {exponent : Nat} (below : 10 * grains < 2 ^ exponent)
    (fits : exponent < limitExponent) :
    tenfold? x = some (roundedPart (nearest (10 * grains) 1) : Int) := by
  obtain ⟨_, product⟩ := size.mul hasSize_ten below fits
  simp only [tenfold?, product]
  rfl

theorem scaledByTen_cases :
    (∃ k : Nat, tenfold? x = some (k : Int) ∧ scaledByTen x = min (k : Int) (2 ^ 127 - 1)) ∨
      tenfold? x = none ∧ scaledByTen x = 2 ^ 127 - 1 := by
  have product := size.mul_eq hasSize_ten
  rw [tenfold?, scaledByTen, wideLimit_eq]
  by_cases representable : Representable (nearest (10 * grains) 1)
  · rw [product, Double.ofGrains_of_representable false representable]
    refine .inl ⟨roundedPart (nearest (10 * grains) 1), rfl, ?_⟩
    simp only [Double.roundWithin, Double.signedGrains, Bool.false_eq_true, if_false, clamp]
    generalize roundedPart (nearest (10 * grains) 1) = k
    omega
  · rw [product, Double.ofGrains, dif_neg representable]
    exact .inr ⟨rfl, rfl⟩

/-- The marker is that of integers of any size: nothing that is held back at the end of 128 bits can
be a number of tenths of a magnitude, as that end is odd. -/
theorem isApproximate_eq_false_iff {magnitude : Magnitude} {tenths : Nat} {count : Nat}
    (counted : HasSize (mantissa x magnitude) count)
    (tenfold : tenfold? (mantissa x magnitude) = some (tenths : Int)) :
    isApproximate x magnitude = false ↔
      tenths * magnitude.size < 2 ^ 127 ∧
        tenfold? x = some ((tenths * magnitude.size : Nat) : Int) := by
  have many := magnitude.thousand_le_size
  obtain ⟨part, even⟩ : 20 ∣ tenths * magnitude.size :=
    Nat.dvd_trans magnitude.twenty_dvd_size (Nat.dvd_mul_left ..)
  have scaled : scaledByTen (mantissa x magnitude) = min (tenths : Int) (2 ^ 127 - 1) := by
    rcases scaledByTen_cases counted with ⟨k, product, scaled⟩ | ⟨overflow, -⟩
    · rw [tenfold] at product
      rw [scaled, Option.some.inj product]
    · rw [tenfold] at overflow
      cases overflow
  simp only [isApproximate, scaled, wideLimit_eq, Bool.or_eq_false_iff, decide_eq_false_iff_not,
    not_not]
  -- what is held back comes to an odd number, and tenths of a magnitude are multiples of twenty
  by_cases short : tenths < 2 ^ 127
  · have within : min (tenths : Int) (2 ^ 127 - 1) = tenths := by omega
    rw [within, ← Int.natCast_mul]
    generalize tenths * magnitude.size = expanded at even ⊢
    rcases scaledByTen_cases size with ⟨k, product, held⟩ | ⟨overflow, held⟩
    · rw [product, held, Option.some.injEq]
      omega
    · rw [overflow, held]
      constructor
      · intro marked
        omega
      · rintro ⟨-, ⟨⟩⟩
  · have beyond : min (tenths : Int) (2 ^ 127 - 1) = 2 ^ 127 - 1 := by omega
    have large := Nat.le_mul_of_pos_right tenths magnitude.size_pos
    rw [beyond]
    constructor
    · intro marked
      omega
    · intro unmarked
      omega

end Marker

/-! ### The numeral -/

section Numeral

variable {x : Double} {k : Nat} (size : HasSize x (tenth k))

theorem grainsPerUnit_le_tenth (some : 10 ≤ k) : grainsPerUnit ≤ tenth k := by
  have one : Representable (1 * grainsPerUnit) := Double.representable_whole (by decide)
  rw [Nat.one_mul] at one
  exact Double.le_nearest_of_multiple (by decide) one.2 (Nat.mul_le_mul_right _ some)

include size

theorem exists_digit {exponent : Nat} (below : tenth k < 2 ^ exponent)
    (fits : exponent < limitExponent) :
    ∃ digit < 10, ((x.sub x.trunc).mul ten).roundInt64.toInt = (digit : Nat) := by
  have within := Double.rest_le k
  have rest := size.sub size.trunc (Nat.div_mul_le_self _ _) below fits
  have scale := Double.grainsPerUnit_eq_sixteenth
  have once := Double.nearest_rest_le within
  have positive := Double.grainsPerUnit_pos
  have scaled := hasSize_mul_ten rest (by omega)
  have digit := Double.roundedPart_ten_mul_lt within
  exact ⟨_, digit, scaled.toInt_roundInt64 rfl (by omega)⟩

theorem exists_numeral {exponent : Nat} (below : tenth k < 2 ^ exponent)
    (fits : exponent < limitExponent) (some : 10 ≤ k) :
    ∃ whole tenths, 1 ≤ whole ∧ tenths < 10 ∧ (k < 10240 → k = 10 * whole + tenths) ∧
      ∀ locale, oneDecimal locale x = numeralText locale whole tenths := by
  by_cases few : k < 1024 * 10
  · refine ⟨k / 10, k % 10, by omega, by omega, by omega, fun locale => ?_⟩
    rw [oneDecimal_tenth few locale size]
    rfl
  · obtain ⟨whole, positive, text⟩ := Double.exists_wholeNumeral (grainsPerUnit_le_tenth some)
    obtain ⟨tenths, short, digit⟩ := exists_digit size below fits
    refine ⟨whole, tenths, positive, short, fun less => absurd less few, fun locale => ?_⟩
    have whole : wholeText x = natural whole := by
      obtain ⟨_, rfl⟩ := size
      exact text
    have none : (tenths : Int) = 0 ↔ tenths = 0 := by omega
    simp only [oneDecimal, numeralText, digit, whole, integer_natCast, none]

end Numeral

/-! ### The choice of the magnitude -/

/-- Thirty-one parts of one in thirty-two. -/
def almostOne : Nat := 8521215115264 * fine

section Choice

variable {x : Double} {grains : Nat} (size : HasSize x grains)

include size

theorem ofDouble_bounds (large : 1000 * grainsPerUnit ≤ grains) :
    (Magnitude.ofDouble x).size * grainsPerUnit ≤ grains ∧
      (Magnitude.ofDouble x ≠ .trillion →
        grains < 1000 * (Magnitude.ofDouble x).size * grainsPerUnit) := by
  simp only [Magnitude.ofDouble, size_le_iff size]
  split_ifs with trillion billion million
  · exact ⟨trillion, absurd rfl⟩
  all_goals simp only [Magnitude.size] at *
  all_goals
    refine ⟨by assumption, fun _ => ?_⟩
    omega

omit size in
/-- What is almost one of a magnitude is rounded up to ten tenths. -/
theorem ten_le_tenthsOf {magnitude : Magnitude} (reached : magnitude.size * almostOne ≤ grains) :
    10 ≤ tenthsOf magnitude grains := by
  have ones : Representable almostOne := by
    rw [almostOne]
    exact Double.representable_fine (by decide)
  have tens : Representable (10 * almostOne) := by
    rw [almostOne, ← Nat.mul_assoc]
    exact Double.representable_fine (by decide)
  refine Nat.le_trans ?_ (le_tenthsOf ones.2 tens.2 reached)
  have scale := Double.grainsPerUnit_eq_fine
  have positive := Double.grainsPerUnit_pos
  unfold almostOne
  rw [roundedPart, Nat.le_div_iff_mul_le (by omega)]
  omega

omit size in
/-- What is rounded to a thousand of a magnitude is rounded to one of the next. -/
theorem tenthsOf_above {magnitude above : Magnitude} (next : magnitude.next? = some above)
    (below : grains < 1000 * magnitude.size * grainsPerUnit)
    (rounded : 10000 ≤ tenthsOf magnitude grains) : tenthsOf above grains = 10 := by
  have greater := Magnitude.size_of_next? next
  have most : tenthsOf above grains ≤ 10 * 1 := by
    refine tenthsOf_le_whole (by decide) ?_
    rw [greater, Nat.one_mul]
    exact Nat.le_of_lt below
  have many : magnitude.size * (999 * grainsPerUnit) < grains := by
    by_contra less
    have fewer := tenthsOf_le_whole (by decide) (Nat.le_of_not_lt less)
    omega
  have least : 10 ≤ tenthsOf above grains := by
    refine ten_le_tenthsOf (Nat.le_trans ?_ (Nat.le_of_lt many))
    rw [greater, Nat.mul_comm 1000, Nat.mul_assoc]
    refine Nat.mul_le_mul_left _ ?_
    have scale := Double.grainsPerUnit_eq_fine
    unfold almostOne
    omega
  omega

/-- A number is named by at least one of its magnitude, and by less than a thousand of any but the
largest. -/
theorem magnitudeOf_bounds (large : 1000 * grainsPerUnit ≤ grains) :
    10 ≤ tenthsOf (magnitudeOf x) grains ∧
      (magnitudeOf x ≠ .trillion → tenthsOf (magnitudeOf x) grains < 10000) := by
  obtain ⟨reached, below⟩ := ofDouble_bounds size large
  have least : 10 * 1 ≤ tenthsOf (Magnitude.ofDouble x) grains :=
    le_tenthsOf_whole (by decide) (by rwa [Nat.one_mul])
  have most (other : Magnitude.ofDouble x ≠ .trillion) :
      tenthsOf (Magnitude.ofDouble x) grains ≤ 10 * 1000 := by
    refine tenthsOf_le_whole (by decide) (Nat.le_of_lt ?_)
    rw [← Nat.mul_assoc, Nat.mul_comm _ 1000]
    exact below other
  simp only [magnitudeOf]
  generalize Magnitude.ofDouble x = magnitude at *
  split_ifs with promoted
  · cases next : magnitude.next? with
    | none =>
      obtain rfl : magnitude = .trillion := by cases magnitude <;> first | rfl | cases next
      exact ⟨least, absurd rfl⟩
    | some above =>
      have other : magnitude ≠ .trillion := by
        rintro rfl
        cases next
      have rounded := (thousand_le_mantissa_iff size (most other)).mp promoted
      have one := tenthsOf_above next (below other) rounded
      rw [Option.getD_some]
      omega
  · refine ⟨least, fun other => ?_⟩
    rw [thousand_le_mantissa_iff size (most other)] at promoted
    omega

end Choice

/-! ### All names -/

theorem exists_size {x : Double} (finite : x.isFinite = true) (large : x.lt (.ofNat 1000) = false) :
    ∃ grains, HasSize x grains ∧ 1000 * grainsPerUnit ≤ grains := by
  obtain ⟨_, thousand⟩ := hasSize_thousand
  cases x with
  | nan => cases finite
  | infinite => cases finite
  | finite negative grains representable =>
    rw [thousand] at large
    have positive := Double.grainsPerUnit_pos
    simp only [Double.lt, Double.signedGrains, decide_eq_false_iff_not, Bool.false_eq_true,
      if_false] at large
    cases negative with
    | true =>
      simp only [if_true] at large
      omega
    | false =>
      simp only [Bool.false_eq_true, if_false] at large
      exact ⟨grains, ⟨representable, rfl⟩, by omega⟩

theorem Name.text_ne_empty (locale : Locale) (name : Name) : name.text locale ≠ "" := by
  intro empty
  have none := congrArg String.toList empty
  unfold Name.text at none
  extract_lets text at none
  split at none
  all_goals simp [text] at none

theorem roundedPart_tenfold_cases (k : Nat) :
    k < 10240 ∧ roundedPart (nearest (10 * tenth k) 1) = k ∨
      1024 * grainsPerUnit ≤ tenth k ∧ 10240 ≤ roundedPart (nearest (10 * tenth k) 1) := by
  by_cases few : k < 1024 * 10
  · exact .inl ⟨few, Double.roundedPart_ten_mul_tenth few⟩
  · have whole : Representable (1024 * grainsPerUnit) := Double.representable_whole (by decide)
    have tens : Representable (10240 * grainsPerUnit) := Double.representable_whole (by decide)
    have large : 1024 * grainsPerUnit ≤ tenth k := by
      refine Double.le_nearest_of_multiple (by decide) whole.2 ?_
      rw [← Nat.mul_assoc]
      exact Nat.mul_le_mul_right _ (by omega)
    have tenfold := Double.le_nearest_of_multiple Nat.one_pos tens.2
      (show 1 * (10240 * grainsPerUnit) ≤ 10 * tenth k by omega)
    have rounded := Double.roundedPart_mono tenfold
    rw [Double.roundedPart_whole] at rounded
    exact .inr ⟨large, rounded⟩

section Named

variable {x : Double} {grains : Nat} (size : HasSize x grains)

include size

theorem tenfold?_mantissa (magnitude : Magnitude) :
    tenfold? (mantissa x magnitude) =
      some (roundedPart (nearest (10 * tenth (tenthsOf magnitude grains)) 1) : Int) := by
  have below := tenth_tenthsOf_lt size magnitude
  refine tenfold?_of_lt (hasSize_mantissa size magnitude) ?_
    (show quotientExponent + 6 < limitExponent by decide)
  rw [Nat.pow_add] at below ⊢
  omega

theorem mantissa_eqv_one_iff (magnitude : Magnitude) :
    (mantissa x magnitude).eqv (.ofNat 1) = true ↔
      roundedPart (nearest (10 * tenth (tenthsOf magnitude grains)) 1) = 10 := by
  have one : HasSize (.ofNat 1) (1 * grainsPerUnit) := Double.hasSize_ofNat (by decide)
  rw [(hasSize_mantissa size magnitude).eqv_iff one]
  rcases roundedPart_tenfold_cases (tenthsOf magnitude grains) with ⟨few, same⟩ | ⟨large, many⟩
  · rw [same, Double.tenth_eq_iff few]
  · have positive := Double.grainsPerUnit_pos
    omega

theorem compact_eq (large : 1000 * grainsPerUnit ≤ grains) (locale : Locale) :
    compact locale x =
      let text := String.ofList (oneDecimal locale (mantissa x (magnitudeOf x))) ++ " " ++
        (magnitudeOf x).word locale ((mantissa x (magnitudeOf x)).eqv (.ofNat 1))
      if isApproximate x (magnitudeOf x) then "≈ " ++ text else text := by
  have above : x.lt (.ofNat 1000) = false := by
    rw [Bool.eq_false_iff, ne_eq, size.lt_iff hasSize_thousand]
    exact Nat.not_lt_of_le large
  simp only [compact, size.isFinite, above, Bool.not_true, Bool.or_false, Bool.false_eq_true,
    if_false, approximationMarker]

/-- Every number of at least a thousand has a name, and it is the same in all languages. -/
theorem exists_name (large : 1000 * grainsPerUnit ≤ grains) :
    ∃ (name : Name) (tenths : Nat), name.Names x tenths ∧
      ∀ locale, compact locale x = name.text locale := by
  obtain ⟨least, most⟩ := magnitudeOf_bounds size large
  have text := compact_eq size large
  generalize choice : magnitudeOf x = magnitude at least most text
  have counted := hasSize_mantissa size magnitude
  have tenfold := tenfold?_mantissa size magnitude
  have singular := mantissa_eqv_one_iff size magnitude
  have marked := isApproximate_eq_false_iff size counted tenfold
  obtain ⟨whole, tenths, one, digit, exactly, numeral⟩ :=
    exists_numeral counted (tenth_tenthsOf_lt size magnitude) (by decide) least
  have short (other : magnitude ≠ .trillion) : whole < 1000 := by
    have few := most other
    have split := exactly (by omega)
    omega
  have stated := roundedPart_tenfold_cases (tenthsOf magnitude grains)
  simp only [numeral] at text
  generalize roundedPart (nearest (10 * tenth (tenthsOf magnitude grains)) 1) = count at *
  generalize isApproximate x magnitude = isMarked at *
  generalize (mantissa x magnitude).eqv (.ofNat 1) = isSingular at *
  refine ⟨⟨isMarked, whole, tenths, magnitude, isSingular, one, digit, short⟩, count,
    ⟨choice.symm, tenfold, fun few => ?_, singular, marked⟩, text⟩
  rcases stated with ⟨less, same⟩ | ⟨-, many⟩
  · rw [same]
    exact exactly less
  · omega

end Named

/--
The text for a number is empty just when the number is not finite or below a thousand. Otherwise it
is a name: the marker, if it has one, a numeral of at least one with at most one decimal, which is
not zero, and a magnitude word; but for the largest magnitude the numeral is below a thousand.
The name has no marker just when the tenths it is made of, times the magnitude, are below the end of
128 bits and are the tenths of the number, all taken as integers of any size.
-/
theorem compact_wellFormed (x : Double) :
    (∀ locale, compact locale x = "" ↔ x.isFinite = false ∨ x.lt (.ofNat 1000) = true) ∧
      ((x.isFinite = false ∨ x.lt (.ofNat 1000) = true) ∨
        ∃ (name : Name) (tenths : Nat), name.Names x tenths ∧
          ∀ locale, compact locale x = name.text locale) := by
  by_cases nameless : x.isFinite = false ∨ x.lt (.ofNat 1000) = true
  · refine ⟨fun locale => iff_of_true ?_ nameless, .inl nameless⟩
    have guard : (!x.isFinite || x.lt (.ofNat 1000)) = true := by simpa using nameless
    rw [compact, if_pos guard]
  · obtain ⟨finite, large⟩ := not_or.mp nameless
    obtain ⟨grains, size, reached⟩ :=
      exists_size (by simpa using finite) (by simpa using large)
    obtain ⟨name, tenths, names, text⟩ := exists_name size reached
    refine ⟨fun locale => iff_of_false ?_ nameless, .inr ⟨name, tenths, names, text⟩⟩
    rw [text]
    exact name.text_ne_empty locale

end Quartermaster.Quantity

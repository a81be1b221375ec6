import Quartermaster.Double.Reading
import Quartermaster.Proofs.Double.Size
import Quartermaster.Proofs.Text.Numeral

/-!
Whole numbers of 64 bits among doubles. A whole number is a double just when it has at most 53
significant bits (`representable_whole_iff`). Rounding any double to 64 bits gives such a number or
the largest one of 64 bits, where the range ends (`isHeld_roundWithin`), and of the numbers of 64
bits just these are still the same after they were made a double (`roundInt64_ofInt_eq_iff`).
-/

namespace Quartermaster.Double

open Text

variable {grains n : Nat} {i : Int}

/-! ### Rounding to 64 bits -/

theorem roundWithin_range (x : Double) :
    -2 ^ 63 ≤ x.roundWithin (-2 ^ 63) (2 ^ 63 - 1) ∧ x.roundWithin (-2 ^ 63) (2 ^ 63 - 1) < 2 ^ 63 := by
  cases x with
  | nan => simp [roundWithin]
  | infinite negative => cases negative <;> simp [roundWithin]
  | finite negative grains representable =>
    simp only [roundWithin, clamp]
    omega

theorem toInt_roundInt64 (x : Double) :
    x.roundInt64.toInt = x.roundWithin (-2 ^ 63) (2 ^ 63 - 1) := by
  obtain ⟨low, high⟩ := roundWithin_range x
  rw [roundInt64, Int64.toInt_minValue, Int64.toInt_maxValue]
  exact Int64.toInt_ofInt_of_le low high

theorem clamp_cases (low high i : Int) :
    clamp low high i = low ∨ clamp low high i = high ∨ clamp low high i = i := by
  rw [clamp]
  omega

theorem natAbs_signedGrains (negative : Bool) (grains : Nat) :
    (signedGrains negative grains).natAbs = grains := by
  cases negative <;> simp [signedGrains]

theorem clamp_of_range (low : -2 ^ 63 ≤ i) (high : i < 2 ^ 63) :
    clamp (-2 ^ 63) (2 ^ 63 - 1) i = i := by
  rw [clamp]
  omega

/-! ### Whole numbers that are doubles -/

theorem roundedPart_whole (n : Nat) : roundedPart (n * grainsPerUnit) = n := by
  have unit := grainsPerUnit_pos
  have start : n * (2 * grainsPerUnit) = 2 * (n * grainsPerUnit) := by ring
  have stop : (n + 1) * (2 * grainsPerUnit) = 2 * (n * grainsPerUnit) + 2 * grainsPerUnit := by ring
  refine Nat.div_eq_of_lt_le ?_ ?_
  · omega
  · omega

theorem roundedPart_mono {other : Nat} (atMost : grains ≤ other) :
    roundedPart grains ≤ roundedPart other := by
  apply Nat.div_le_div_right
  omega

/-- From 53 binary digits on, sizes are whole numbers. -/
theorem grainsPerUnit_dvd_spacing (large : 2 ^ (52 + unitExponent) ≤ grains) :
    grainsPerUnit ∣ spacing grains := by
  rw [grainsPerUnit_eq]
  rw [Nat.add_comm] at large
  exact two_pow_dvd_spacing large

theorem lt_or_grainsPerUnit_dvd (representable : Representable grains) :
    grains < 2 ^ 53 * grainsPerUnit ∨ grainsPerUnit ∣ grains := by
  refine or_iff_not_imp_left.mpr fun large => ?_
  refine Nat.dvd_trans (grainsPerUnit_dvd_spacing ?_) representable.2
  rw [Nat.pow_add, ← grainsPerUnit_eq]
  exact Nat.le_trans (Nat.mul_le_mul_right _ (by decide)) (Nat.le_of_not_lt large)

theorem representable_roundedPart (representable : Representable grains) :
    Representable (roundedPart grains * grainsPerUnit) := by
  rcases lt_or_grainsPerUnit_dvd representable with small | ⟨whole, size⟩
  · apply representable_whole
    have double : (2 ^ 53 + 1) * (2 * grainsPerUnit) =
        2 * (2 ^ 53 * grainsPerUnit) + 2 * grainsPerUnit := by ring
    have below : roundedPart grains < 2 ^ 53 + 1 := by
      rw [roundedPart, Nat.div_lt_iff_lt_mul (Nat.mul_pos Nat.two_pos grainsPerUnit_pos)]
      omega
    exact Nat.le_of_lt_succ below
  · rw [Nat.mul_comm] at size
    rwa [size, roundedPart_whole, ← size]

theorem representable_wholePart (representable : Representable grains) :
    Representable (wholePart grains * grainsPerUnit) := by
  rcases lt_or_grainsPerUnit_dvd representable with small | whole
  · apply representable_whole
    have below : wholePart grains < 2 ^ 53 := by
      rwa [wholePart, Nat.div_lt_iff_lt_mul grainsPerUnit_pos]
    exact Nat.le_of_lt below
  · rwa [wholePart, Nat.div_mul_cancel whole]

/-- A whole number of 64 bits is a double just when it has at most 53 significant bits. -/
theorem representable_whole_iff (fits : n ≤ 2 ^ 63) :
    Representable (n * grainsPerUnit) ↔
      ∃ significand < 2 ^ 53, ∃ shift, n = significand * 2 ^ shift := by
  constructor
  · rintro ⟨-, multiple⟩
    by_cases short : n < 2 ^ 53
    · exact ⟨n, short, 0, (Nat.mul_one n).symm⟩
    · -- the spacing is a whole number, and the significand counts how often it is taken
      have large : 2 ^ (53 + unitExponent) ≤ n * grainsPerUnit := by
        rw [Nat.pow_add, ← grainsPerUnit_eq]
        exact Nat.mul_le_mul_right _ (Nat.le_of_not_lt short)
      have some : n * grainsPerUnit ≠ 0 :=
        Nat.ne_of_gt (Nat.lt_of_lt_of_le (Nat.two_pow_pos _) large)
      have binade : 53 + unitExponent ≤ (n * grainsPerUnit).log2 := (Nat.le_log2 some).mpr large
      have exponent : (n * grainsPerUnit).log2 - 52 =
          (n * grainsPerUnit).log2 - 52 - unitExponent + unitExponent := by omega
      obtain ⟨significand, counted⟩ := multiple
      have within : spacing (n * grainsPerUnit) * significand <
          spacing (n * grainsPerUnit) * 2 ^ 53 := by
        have top : n * grainsPerUnit < 2 ^ ((n * grainsPerUnit).log2 + 1) := Nat.lt_log2_self
        have upper : (n * grainsPerUnit).log2 - 52 + 53 = (n * grainsPerUnit).log2 + 1 := by omega
        rwa [← counted, spacing, pow_two_eq, ← Nat.pow_add, upper]
      refine ⟨significand, Nat.lt_of_mul_lt_mul_left within,
        (n * grainsPerUnit).log2 - 52 - unitExponent, ?_⟩
      apply Nat.eq_of_mul_eq_mul_right grainsPerUnit_pos
      calc n * grainsPerUnit = spacing (n * grainsPerUnit) * significand := counted
        _ = 2 ^ ((n * grainsPerUnit).log2 - 52 - unitExponent) * grainsPerUnit * significand := by
          rw [spacing, pow_two_eq, exponent, Nat.pow_add, ← grainsPerUnit_eq, Nat.add_sub_cancel]
        _ = significand * 2 ^ ((n * grainsPerUnit).log2 - 52 - unitExponent) * grainsPerUnit := by
          ring
  · rintro ⟨significand, short, shift, rfl⟩
    have size : significand * 2 ^ shift * grainsPerUnit =
        significand * 2 ^ (shift + unitExponent) := by
      rw [grainsPerUnit_eq, Nat.mul_assoc, ← Nat.pow_add]
    rw [size]
    refine representable_mul_two_pow (Nat.le_of_lt short) ?_
    rw [← size]
    calc significand * 2 ^ shift * grainsPerUnit ≤ 2 ^ 63 * grainsPerUnit :=
          Nat.mul_le_mul_right _ fits
      _ = 2 ^ (63 + unitExponent) := by rw [Nat.pow_add, ← grainsPerUnit_eq]
      _ < Nat.pow 2 limitExponent := two_pow_lt (by decide)

theorem nearest_of_representable (representable : Representable grains) :
    nearest grains 1 = grains := by
  refine nearest_of_eq Nat.one_pos ?_ (Nat.one_mul _).symm
  rw [Nat.div_one]
  exact representable.2

theorem ofRatio_whole (negative : Bool) (representable : Representable (n * grainsPerUnit)) :
    ofRatio negative n 1 = .finite negative (n * grainsPerUnit) representable := by
  have rounded : ofRatio negative n 1 = ofGrains negative (nearest (n * grainsPerUnit) 1) := rfl
  rw [rounded, nearest_of_representable representable]
  exact ofGrains_of_representable negative representable

theorem exists_ofRatio_eq (negative : Bool) (short : n < 2 ^ 64) : ∃ representable,
    ofRatio negative n 1 = .finite negative (nearest (n * grainsPerUnit) 1) representable := by
  have below : n * grainsPerUnit / 1 < 2 ^ (64 + unitExponent) := by
    rw [Nat.div_one]
    exact lt_two_pow_of_lt_whole (Nat.le_refl _)
      (Nat.mul_lt_mul_of_pos_right short grainsPerUnit_pos)
  have representable := representable_nearest Nat.one_pos below (by decide)
  exact ⟨representable, ofGrains_of_representable negative representable⟩

theorem isFinite_ofRatio_of_lt (negative : Bool) (short : n < 2 ^ 64) :
    (ofRatio negative n 1).isFinite = true := by
  obtain ⟨representable, made⟩ := exists_ofRatio_eq negative short
  rw [made]
  rfl

theorem HasSize.round {x : Double} (size : HasSize x grains) :
    HasSize x.round (roundedPart grains * grainsPerUnit) := by
  obtain ⟨representable, rfl⟩ := size
  exact ⟨_, ofRatio_whole false (representable_roundedPart representable)⟩

theorem HasSize.trunc {x : Double} (size : HasSize x grains) :
    HasSize x.trunc (wholePart grains * grainsPerUnit) := by
  obtain ⟨representable, rfl⟩ := size
  exact ⟨_, ofRatio_whole false (representable_wholePart representable)⟩

/-! ### Whole numbers that come back from a double -/

/-- A whole number that is a double, or the largest one of 64 bits. -/
def IsHeld (i : Int) : Prop := Representable (i.natAbs * grainsPerUnit) ∨ i = 2 ^ 63 - 1

theorem isHeld_zero : IsHeld 0 := by
  rw [IsHeld, Int.natAbs_zero, Nat.zero_mul]
  exact .inl representable_zero

theorem isHeld_least : IsHeld (-2 ^ 63) :=
  .inl ((representable_whole_iff (by decide)).mpr ⟨1, by decide, 63, by decide⟩)

/-- Rounding to 64 bits gives a double unless the upper end of the range holds it back. -/
theorem isHeld_roundWithin (x : Double) : IsHeld (x.roundWithin (-2 ^ 63) (2 ^ 63 - 1)) := by
  cases x with
  | nan =>
    rw [roundWithin]
    exact isHeld_zero
  | infinite negative =>
    rw [roundWithin]
    split
    · exact isHeld_least
    · exact .inr rfl
  | finite negative grains representable =>
    rw [roundWithin]
    rcases clamp_cases (-2 ^ 63) (2 ^ 63 - 1) (signedGrains negative (roundedPart grains)) with
      low | high | within
    · rw [low]
      exact isHeld_least
    · exact .inr high
    · rw [within, IsHeld, natAbs_signedGrains]
      exact .inl (representable_roundedPart representable)

theorem signedGrains_natAbs (i : Int) : signedGrains (decide (i < 0)) i.natAbs = i := by
  by_cases negative : i < 0
  · rw [decide_eq_true negative, signedGrains, if_pos rfl]
    omega
  · rw [decide_eq_false negative, signedGrains, if_neg Bool.false_ne_true]
    omega

namespace IsHeld

variable (held : IsHeld i)

include held

theorem isFinite_ofRatio (negative : Bool) : (ofRatio negative i.natAbs 1).isFinite = true := by
  rcases held with representable | rfl
  · rw [ofRatio_whole negative representable]
    rfl
  · exact isFinite_ofRatio_of_lt negative (by decide)

theorem toInt_roundInt64_ofRatio (low : -2 ^ 63 ≤ i) (high : i < 2 ^ 63) :
    (ofRatio (i < 0) i.natAbs 1).roundInt64.toInt = i := by
  rcases held with representable | rfl
  · rw [toInt_roundInt64, ofRatio_whole _ representable, roundWithin, roundedPart_whole,
      signedGrains_natAbs]
    exact clamp_of_range low high
  · -- the largest number is rounded up to a double beyond the range, which holds it back
    have largest : decide ((2 ^ 63 - 1 : Int) < 0) = false ∧
        (2 ^ 63 - 1 : Int).natAbs = 9223372036854775807 := by decide
    have back : (ofRatio false 9223372036854775807 1).roundInt64 = Int64.maxValue := by
      decide +kernel
    rw [largest.1, largest.2, back, Int64.toInt_maxValue]

end IsHeld

/-- A number of 64 bits is still the same after it was made a double just when it is held by one. -/
theorem roundInt64_ofInt_eq_iff (word : Int64) :
    (ofInt word.toInt).roundInt64 = word ↔ IsHeld word.toInt := by
  constructor
  · intro same
    rw [← same, toInt_roundInt64]
    exact isHeld_roundWithin _
  · intro held
    exact Int64.toInt_inj.mp (held.toInt_roundInt64_ofRatio word.le_toInt word.toInt_lt)

/-! ### Numbers that are rounded to the least one -/

section Least

variable {exponent : Nat}

theorem spacing_dvd_of_lt_whole (below : n < 2 ^ (exponent + 53)) :
    spacing (n * grainsPerUnit) ∣ 2 ^ exponent * grainsPerUnit := by
  have shifted : exponent + unitExponent + 53 = exponent + 53 + unitExponent := by omega
  rw [grainsPerUnit_eq, ← Nat.pow_add]
  apply spacing_dvd_two_pow
  rw [shifted, Nat.pow_add _ _ unitExponent]
  exact Nat.mul_lt_mul_of_pos_right below (Nat.two_pow_pos _)

theorem dvd_spacing_of_le_whole (reached : 2 ^ (exponent + 52) ≤ n) :
    2 ^ exponent * grainsPerUnit ∣ spacing (n * grainsPerUnit) := by
  have shifted : exponent + unitExponent + 52 = exponent + 52 + unitExponent := by omega
  rw [grainsPerUnit_eq, ← Nat.pow_add]
  apply two_pow_dvd_spacing
  rw [shifted, Nat.pow_add _ _ unitExponent]
  exact Nat.mul_le_mul_right _ reached

/-- Below two to the 63 doubles are 1024 apart, and the half way to it goes upward. -/
theorem two_pow_le_roundedPart_iff (fits : n ≤ 2 ^ 63) :
    2 ^ 63 ≤ roundedPart (nearest (n * grainsPerUnit) 1) ↔ 2 ^ 63 - 512 ≤ n := by
  have unit := grainsPerUnit_pos
  constructor
  · -- less than half of a spacing is added, and farther away from the limit that is not enough
    intro reached
    by_contra early
    have apart : spacing (n * grainsPerUnit) ≤ 2 ^ 10 * grainsPerUnit :=
      Nat.le_of_dvd (by omega) (spacing_dvd_of_lt_whole (by omega))
    have off := two_mul_nearest_le Nat.one_pos (n * grainsPerUnit)
    have counted := (Nat.le_div_iff_mul_le (Nat.mul_pos Nat.two_pos unit)).mp reached
    have short : n * grainsPerUnit ≤ (2 ^ 63 - 513) * grainsPerUnit :=
      Nat.mul_le_mul_right _ (by omega)
    rw [Nat.div_one] at off
    omega
  · -- the limit is an even multiple of the spacing, so the tie goes to it
    intro near
    have apart : 2 ^ 10 * grainsPerUnit ≤ spacing (n * grainsPerUnit) :=
      Nat.le_of_dvd (spacing_pos _) (dvd_spacing_of_le_whole (by omega))
    have even : 2 * spacing (n * grainsPerUnit) ∣ 2 ^ 63 * grainsPerUnit := by
      have narrow : spacing (n * grainsPerUnit) ∣ 2 ^ 11 * grainsPerUnit :=
        spacing_dvd_of_lt_whole (by omega)
      have twelve : 2 ^ 63 * grainsPerUnit = 2 * (2 ^ 11 * grainsPerUnit) * 2 ^ 51 := by ring
      rw [twelve]
      exact Dvd.dvd.mul_right (Nat.mul_dvd_mul_left 2 narrow) _
    have far : (2 ^ 63 - 512) * grainsPerUnit ≤ n * grainsPerUnit := Nat.mul_le_mul_right _ near
    have reached : 2 ^ 63 * grainsPerUnit ≤ nearest (n * grainsPerUnit) 1 := by
      apply le_nearest_of_even Nat.one_pos
      · rwa [Nat.div_one]
      · rw [Nat.div_one]
        omega
    have grown := roundedPart_mono reached
    rwa [roundedPart_whole] at grown

/-- The numbers that are made the least one of 64 bits on their way through a double. -/
theorem toInt_roundInt64_ofInt_eq_least_iff (word : Int64) :
    (ofInt word.toInt).roundInt64.toInt = -2 ^ 63 ↔ word.toInt ≤ -2 ^ 63 + 512 := by
  have low := word.le_toInt
  have high := word.toInt_lt
  have fits : word.toInt.natAbs ≤ 2 ^ 63 := by omega
  have large := two_pow_le_roundedPart_iff fits
  obtain ⟨representable, made⟩ :=
    exists_ofRatio_eq (n := word.toInt.natAbs) (decide (word.toInt < 0)) (by omega)
  rw [toInt_roundInt64, ofInt, made, roundWithin, clamp, signedGrains]
  generalize word.toInt = i at *
  generalize roundedPart (nearest (i.natAbs * grainsPerUnit) 1) = whole at *
  by_cases negative : i < 0
  · rw [if_pos (decide_eq_true negative)]
    omega
  · rw [if_neg (by simpa using negative)]
    omega

end Least

/-! ### Reading numerals -/

/-- The numeral of a number of up to twenty digits is read as the double nearest to it. -/
theorem ofDecimal_digits (negative : Bool) (few : n < 10 ^ 20) :
    ofDecimal negative (digits n) 0 = ofRatio negative n 1 := by
  have value : ofDigits ((digits n).dropWhile (· = Digit.zero)) = n := by
    rw [ofDigits_dropWhile_zero, ofDigits_digits]
  rw [ofDecimal]
  cases significant : (digits n).dropWhile (· = Digit.zero) with
  | nil =>
    obtain rfl : 0 = n := by rw [← value, significant]; rfl
    rw [if_pos rfl]
    have whole := ofRatio_whole negative (n := 0) (by simpa using representable_zero)
    simpa using whole.symm
  | cons d rest =>
    have nonzero : d ≠ Digit.zero := by
      have first := List.head_dropWhile_not (p := (· = Digit.zero)) (l := digits n)
        (by simp [significant])
      simpa [significant] using first
    have least := ten_pow_le_ofDigits nonzero rest
    rw [significant] at value
    rw [value] at least
    have short : rest.length < 20 :=
      (Nat.pow_lt_pow_iff_right (by decide)).mp (Nat.lt_of_le_of_lt least few)
    rw [if_neg (by simp), if_neg (by rw [List.length_cons]; omega), if_neg (by omega),
      if_neg (by omega), value]
    simp

end Quartermaster.Double

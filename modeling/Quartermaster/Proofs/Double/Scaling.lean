import Quartermaster.Double.Reading
import Quartermaster.Proofs.Double.Whole

/-!
Decimals scaled to whole numbers. The double that a decimal is read as is off by a part in two to
the power of 53, and so is its product with a factor; for a product of at most 50 binary digits
both together are less than a half, so rounding the product gives the exact one
(`toInt_roundInt64_mul_ofDecimal`).
-/

namespace Quartermaster.Double

open Text

variable {n factor top bottom top' bottom' : Nat}

theorem spacing_mul_le {grains : Nat} (large : 2 ^ 52 ≤ grains) :
    spacing grains * 2 ^ 52 ≤ grains := by
  have some : grains ≠ 0 := by omega
  have enough : 52 ≤ grains.log2 := (Nat.le_log2 some).mpr large
  have binade : grains.log2 - 52 + 52 = grains.log2 := by omega
  calc
    spacing grains * 2 ^ 52 = 2 ^ grains.log2 := by
      rw [spacing, pow_two_eq, ← Nat.pow_add, binade]
    _ ≤ grains := Nat.log2_self_le some

theorem nearest_congr (positive : 0 < bottom) (positive' : 0 < bottom')
    (same : top * bottom' = top' * bottom) : nearest top bottom = nearest top' bottom' := by
  rw [← nearest_mul_right top bottom positive', ← nearest_mul_right top' bottom' positive, same,
    Nat.mul_comm bottom]

/-! ### Dividing a whole number and multiplying again -/

section Scaled

variable (some : 0 < n) (positive : 0 < factor) (small : factor * 2 ^ 52 ≤ grainsPerUnit)

include some positive small

theorem two_pow_le_ratio : 2 ^ 52 ≤ n * grainsPerUnit / factor := by
  rw [Nat.le_div_iff_mul_le positive, Nat.mul_comm]
  exact small.trans (Nat.le_mul_of_pos_left _ some)

variable (short : n ≤ 2 ^ 50)

include short

/-- A quotient of a whole number is off by an eighth of a unit at most, in parts of the divisor. -/
theorem mul_nearest_near :
    8 * (factor * nearest (n * grainsPerUnit) factor) ≤ 8 * (n * grainsPerUnit) + grainsPerUnit ∧
      8 * (n * grainsPerUnit) ≤
        8 * (factor * nearest (n * grainsPerUnit) factor) + grainsPerUnit := by
  have above := two_mul_nearest_le positive (n * grainsPerUnit)
  have below := le_two_mul_nearest positive (n * grainsPerUnit)
  have spaced := spacing_mul_le (two_pow_le_ratio some positive small)
  have step : factor * spacing (n * grainsPerUnit / factor) * 2 ^ 52 ≤ 2 ^ 50 * grainsPerUnit := by
    calc factor * spacing (n * grainsPerUnit / factor) * 2 ^ 52
        ≤ factor * (n * grainsPerUnit / factor) := by
          rw [Nat.mul_assoc]
          exact Nat.mul_le_mul_left factor spaced
      _ ≤ n * grainsPerUnit := Nat.mul_div_le _ _
      _ ≤ 2 ^ 50 * grainsPerUnit := Nat.mul_le_mul_right _ short
  omega

/-- Multiplied by the divisor again, the quotient is rounded to the whole number. -/
theorem roundedPart_scaled :
    roundedPart (nearest (factor * nearest (n * grainsPerUnit) factor) 1) = n := by
  obtain ⟨above, below⟩ := mul_nearest_near some positive small short
  have unit : grainsPerUnit ≤ n * grainsPerUnit := Nat.le_mul_of_pos_left _ some
  have most : n * grainsPerUnit ≤ 2 ^ 50 * grainsPerUnit := Nat.mul_le_mul_right _ short
  have large : 2 ^ 53 ≤ grainsPerUnit := by
    rw [grainsPerUnit_eq]
    exact Nat.pow_le_pow_right Nat.two_pos (by decide)
  revert above below
  generalize factor * nearest (n * grainsPerUnit) factor = product
  intro above below
  have spaced : spacing product * 2 ^ 52 ≤ product := spacing_mul_le (by omega)
  have upper := two_mul_nearest_le Nat.one_pos product
  have lower := le_two_mul_nearest Nat.one_pos product
  rw [Nat.div_one] at upper lower
  -- an eighth of a unit from the quotient, and a quarter from the product
  have start : n * (2 * grainsPerUnit) = 2 * (n * grainsPerUnit) := by ring
  have stop : (n + 1) * (2 * grainsPerUnit) = 2 * (n * grainsPerUnit) + 2 * grainsPerUnit := by ring
  refine Nat.div_eq_of_lt_le ?_ ?_
  · omega
  · omega

theorem product_lt_two_pow :
    factor * nearest (n * grainsPerUnit) factor < 2 ^ (51 + unitExponent) := by
  obtain ⟨above, -⟩ := mul_nearest_near some positive small short
  have most : n * grainsPerUnit ≤ 2 ^ 50 * grainsPerUnit := Nat.mul_le_mul_right _ short
  have grains := grainsPerUnit_pos
  refine lt_two_pow_of_lt_whole (Nat.le_refl _) ?_
  omega

end Scaled

/-! ### Reading a decimal -/

section Decimal

variable {ds : List Digit} {places : Nat} (positive : 0 < factor) (few : factor ≤ 2 ^ 30)
  (short : n ≤ 2 ^ 50) (exactly : ofDigits ds * factor = n * 10 ^ places)

include positive exactly

theorem nearest_decimal :
    nearest (ofDigits ds * grainsPerUnit) (10 ^ places) = nearest (n * grainsPerUnit) factor := by
  refine nearest_congr (Nat.pow_pos (by decide)) positive ?_
  rw [Nat.mul_right_comm, exactly, Nat.mul_right_comm]

include short

theorem ofDigits_le_of_product : ofDigits ds ≤ 2 ^ 50 * 10 ^ places :=
  calc ofDigits ds ≤ ofDigits ds * factor := Nat.le_mul_of_pos_right _ positive
    _ = n * 10 ^ places := exactly
    _ ≤ 2 ^ 50 * 10 ^ places := Nat.mul_le_mul_right _ short

include few

theorem places_near {d : Digit} {rest : List Digit}
    (significant : ds.dropWhile (· = Digit.zero) = d :: rest) :
    rest.length ≤ places + 16 ∧ places < rest.length + 11 := by
  have nonzero : d ≠ Digit.zero := by
    have first := List.head_dropWhile_not (p := (· = Digit.zero)) (l := ds) (by simp [significant])
    simpa [significant] using first
  have least := ten_pow_le_ofDigits nonzero rest
  have most := ofDigits_lt (d :: rest)
  rw [← significant, ofDigits_dropWhile_zero] at least
  rw [← significant, ofDigits_dropWhile_zero, significant, List.length_cons] at most
  have bounded := ofDigits_le_of_product positive short exactly
  have some : 0 < n := by
    have product : 0 < ofDigits ds * factor :=
      Nat.mul_pos (Nat.lt_of_lt_of_le (Nat.pow_pos (by decide)) least) positive
    exact Nat.pos_of_mul_pos_right (exactly ▸ product)
  constructor
  · have within : 10 ^ rest.length ≤ 10 ^ (places + 16) := by
      calc 10 ^ rest.length ≤ 2 ^ 50 * 10 ^ places := least.trans bounded
        _ ≤ 10 ^ 16 * 10 ^ places := Nat.mul_le_mul_right _ (by decide)
        _ = 10 ^ (places + 16) := by rw [Nat.pow_add, Nat.mul_comm]
    exact (Nat.pow_le_pow_iff_right (by decide)).mp within
  · have within : 10 ^ places < 10 ^ (rest.length + 11) := by
      calc 10 ^ places ≤ n * 10 ^ places := Nat.le_mul_of_pos_left _ some
        _ = ofDigits ds * factor := exactly.symm
        _ < 10 ^ (rest.length + 1) * factor := Nat.mul_lt_mul_of_pos_right most positive
        _ ≤ 10 ^ (rest.length + 1) * 10 ^ 10 := Nat.mul_le_mul_left _ (few.trans (by decide))
        _ = 10 ^ (rest.length + 11) := by rw [← Nat.pow_add]
    exact (Nat.pow_lt_pow_iff_right (by decide)).mp within

/-- A decimal near the point is taken neither for zero nor for infinity. -/
theorem ofDecimal_eq (some : ds.dropWhile (· = Digit.zero) ≠ []) :
    ofDecimal false ds (-(places : Int)) =
      ofGrainRatio false (ofDigits ds * grainsPerUnit) (10 ^ places) := by
  obtain ⟨d, rest, significant⟩ := List.exists_cons_of_ne_nil some
  obtain ⟨low, high⟩ := places_near positive few short exactly significant
  have value := ofDigits_dropWhile_zero ds
  have counted : (ds.dropWhile (· = Digit.zero)).length = rest.length + 1 := by simp [significant]
  rw [ofDecimal, if_neg some, if_neg (by omega), if_neg (by omega), value]
  cases places with
  | zero => simp [ofRatio]
  | succ more => rw [if_pos (by omega)]; rfl

theorem hasSize_ofDecimal :
    HasSize (ofDecimal false ds (-(places : Int))) (nearest (n * grainsPerUnit) factor) := by
  rw [← nearest_decimal positive exactly]
  by_cases none : ds.dropWhile (· = Digit.zero) = []
  · have zero : ofDigits ds = 0 := by rw [← ofDigits_dropWhile_zero, none]; rfl
    have size : nearest (0 * grainsPerUnit) (10 ^ places) = 0 :=
      nearest_of_eq (Nat.pow_pos (by decide)) (Nat.dvd_zero _) (Nat.zero_mul _)
    rw [zero, size, ofDecimal, if_pos none]
    exact ⟨representable_zero, rfl⟩
  · rw [ofDecimal_eq positive few short exactly none]
    have bounded := ofDigits_le_of_product positive short exactly
    have below : ofDigits ds * grainsPerUnit / 10 ^ places < 2 ^ (51 + unitExponent) := by
      refine lt_two_pow_of_lt_whole (Nat.le_refl _) ?_
      rw [Nat.div_lt_iff_lt_mul (Nat.pow_pos (by decide))]
      calc ofDigits ds * grainsPerUnit ≤ 2 ^ 50 * 10 ^ places * grainsPerUnit :=
            Nat.mul_le_mul_right _ bounded
        _ = 2 ^ 50 * (grainsPerUnit * 10 ^ places) := by ring
        _ < 2 ^ 51 * (grainsPerUnit * 10 ^ places) :=
          Nat.mul_lt_mul_of_pos_right (by decide)
            (Nat.mul_pos grainsPerUnit_pos (Nat.pow_pos (by decide)))
        _ = 2 ^ 51 * grainsPerUnit * 10 ^ places := by ring
    exact hasSize_ofGrainRatio (Nat.pow_pos (by decide)) below (by decide)

/-- The product of a decimal and a factor is rounded to the exact one. -/
theorem toInt_roundInt64_mul_ofDecimal :
    ((ofDecimal false ds (-(places : Int))).mul (.ofNat factor)).roundInt64.toInt = n := by
  have size := hasSize_ofDecimal positive few short exactly
  have whole : HasSize (.ofNat factor) (factor * grainsPerUnit) :=
    hasSize_ofNat (few.trans (by decide))
  rcases Nat.eq_zero_or_pos n with rfl | some
  · have zero : nearest (0 * grainsPerUnit) factor = 0 :=
      nearest_of_eq positive (Nat.dvd_zero _) (Nat.zero_mul _)
    have none : nearest (factor * 0) 1 = 0 :=
      nearest_of_eq Nat.one_pos (Nat.dvd_zero _) (Nat.mul_zero _)
    have below : factor * 0 < 2 ^ 0 := by rw [Nat.mul_zero]; exact Nat.one_pos
    rw [zero] at size
    have product := size.mul whole below (by decide)
    rw [none] at product
    have whole := roundedPart_whole 0
    rw [Nat.zero_mul] at whole
    exact product.toInt_roundInt64 whole (by decide)
  · have small : factor * 2 ^ 52 ≤ grainsPerUnit := by
      rw [grainsPerUnit_eq]
      calc factor * 2 ^ 52 ≤ 2 ^ 30 * 2 ^ 52 := Nat.mul_le_mul_right _ few
        _ ≤ 2 ^ unitExponent := by
          rw [← Nat.pow_add]
          exact Nat.pow_le_pow_right Nat.two_pos (by decide)
    have product := size.mul whole (product_lt_two_pow some positive small short) (by decide)
    have rounded := roundedPart_scaled some positive small short
    exact product.toInt_roundInt64 rounded (Nat.lt_of_le_of_lt short (by decide))

end Decimal

/-! ### A number and its multiple -/

section Multiple

variable {x : Double} {grains multiple : Nat}

theorem le_two_mul_nearest_one (grains : Nat) : grains ≤ 2 * nearest grains 1 := by
  have off := le_two_mul_nearest Nat.one_pos grains
  rw [Nat.div_one] at off
  rcases Nat.eq_zero_or_pos grains with rfl | some
  · exact Nat.zero_le _
  · have small : spacing grains ≤ grains := by
      refine Nat.le_trans ?_ (Nat.log2_self_le (Nat.ne_of_gt some))
      rw [spacing, pow_two_eq]
      exact Nat.pow_le_pow_right Nat.two_pos (Nat.sub_le _ _)
    omega

theorem roundedPart_lt_of_fourfold (fourfold : 4 * grains ≤ multiple)
    (some : 0 < roundedPart grains) : roundedPart grains < roundedPart multiple := by
  have reached : roundedPart grains * (2 * grainsPerUnit) ≤ 2 * grains + grainsPerUnit :=
    Nat.div_mul_le_self _ _
  have least : 1 * (2 * grainsPerUnit) ≤ roundedPart grains * (2 * grainsPerUnit) :=
    Nat.mul_le_mul_right _ some
  refine (Nat.le_div_iff_mul_le (Nat.mul_pos Nat.two_pos grainsPerUnit_pos)).mpr ?_
  rw [Nat.succ_mul]
  omega

theorem HasSize.toInt_roundInt64_eq_min (size : HasSize x grains) :
    x.roundInt64.toInt = min (2 ^ 63 - 1) (roundedPart grains : Int) := by
  rw [Double.toInt_roundInt64, size.roundWithin, clamp]
  generalize roundedPart grains = whole
  omega

/-- A number that is not negative is rounded to something else than its multiple, unless the
multiple is rounded to zero or the number is beyond the range. -/
theorem HasSize.roundInt64_mul_eq_iff (size : HasSize x grains) (large : 8 ≤ factor)
    (short : factor ≤ Nat.pow 2 53) :
    (x.mul (.ofNat factor)).roundInt64 = x.roundInt64 ↔
      (x.mul (.ofNat factor)).roundInt64 = 0 ∨ x.roundInt64 = Int64.maxValue := by
  have fourfold : 4 * grains ≤ nearest (factor * grains) 1 := by
    have rounded := le_two_mul_nearest_one (factor * grains)
    have eightfold := Nat.mul_le_mul_right grains large
    omega
  have grows := roundedPart_lt_of_fourfold fourfold
  have monotone : roundedPart grains ≤ roundedPart (nearest (factor * grains) 1) :=
    roundedPart_mono (by omega)
  have plain := size.toInt_roundInt64_eq_min
  have product : (x.mul (.ofNat factor)).roundInt64.toInt = 2 ^ 63 - 1 ∨
      (x.mul (.ofNat factor)).roundInt64.toInt =
        min (2 ^ 63 - 1) (roundedPart (nearest (factor * grains) 1) : Int) := by
    rw [size.mul_eq (hasSize_ofNat short), ofGrains]
    split
    · rename_i representable
      exact .inr (HasSize.toInt_roundInt64_eq_min ⟨representable, rfl⟩)
    · left
      rw [Double.toInt_roundInt64, Double.roundWithin, if_neg Bool.false_ne_true]
  have zero : (0 : Int64).toInt = 0 := rfl
  rw [← Int64.toInt_inj, ← Int64.toInt_inj, ← Int64.toInt_inj, zero, Int64.toInt_maxValue]
  generalize roundedPart grains = whole at *
  generalize roundedPart (nearest (factor * grains) 1) = whole' at *
  omega

end Multiple

end Quartermaster.Double

import Quartermaster.Proofs.Double.Whole
import Quartermaster.Proofs.Quantity.Tenths
import Quartermaster.Quantity.Compact

/-!
How many of a magnitude a number is, to one decimal. No step on the way overflows, and the result
is the double nearest to a number of tenths (`hasSize_mantissa`). Doubles are rounded at every step,
but no bound that is a double itself is passed by that (`le_tenthsOf`, `tenthsOf_le`).
-/

namespace Quartermaster.Quantity

open Double (HasSize nearest roundedPart tenth)

/-! ### Magnitudes -/

namespace Magnitude

theorem twenty_dvd_size (magnitude : Magnitude) : 20 ∣ magnitude.size := by
  cases magnitude <;> decide

theorem size_le (magnitude : Magnitude) : magnitude.size ≤ 1000000000000 := by
  cases magnitude <;> decide

theorem thousand_le_size (magnitude : Magnitude) : 1000 ≤ magnitude.size := by
  cases magnitude <;> decide

theorem size_pos (magnitude : Magnitude) : 0 < magnitude.size :=
  Nat.lt_of_lt_of_le (by decide) magnitude.thousand_le_size

end Magnitude

/-! ### Whole numbers that are named -/

theorem wideLimit_eq : wideLimit = 2 ^ 127 := by decide

theorem hasSize_size (magnitude : Magnitude) :
    HasSize (.ofNat magnitude.size) (magnitude.size * grainsPerUnit) :=
  Double.hasSize_ofNat (by cases magnitude <;> decide)

theorem hasSize_thousand : HasSize (.ofNat 1000) (1000 * grainsPerUnit) :=
  Double.hasSize_ofNat (by decide)

theorem hasSize_ten : HasSize ten (10 * grainsPerUnit) := Double.hasSize_ofNat (by decide)

/-! ### Tenths of a magnitude -/

/-- How many tenths of a magnitude a size is, with a rounding at each step. -/
def tenthsOf (magnitude : Magnitude) (grains : Nat) : Nat :=
  roundedPart (nearest (10 * nearest grains magnitude.size) 1)

section Finite

variable {x : Double} {grains : Nat} (size : HasSize x grains)

/-- A number in a magnitude stays below two to this power in grains. -/
def quotientExponent : Nat := 2089

theorem two_pow_limit : Nat.pow 2 limitExponent = 2 ^ quotientExponent * 512 := by
  have exponents : limitExponent = quotientExponent + 9 := by decide
  rw [exponents, Double.pow_two_eq, Nat.pow_add]

include size

theorem quotient_lt (magnitude : Magnitude) : grains / magnitude.size < 2 ^ quotientExponent := by
  obtain ⟨representable, -⟩ := size
  have below := representable.1
  rw [two_pow_limit] at below
  have many : 512 ≤ magnitude.size := Nat.le_trans (by decide) magnitude.thousand_le_size
  rw [Nat.div_lt_iff_lt_mul magnitude.size_pos]
  exact Nat.lt_of_lt_of_le below (Nat.mul_le_mul_left _ many)

theorem quotient_le (magnitude : Magnitude) :
    nearest grains magnitude.size ≤ 2 ^ quotientExponent := by
  refine Double.nearest_le_of_multiple magnitude.size_pos (Double.spacing_two_pow_dvd _) ?_
  rw [Nat.mul_comm]
  exact Nat.le_of_lt ((Nat.div_lt_iff_lt_mul magnitude.size_pos).mp (quotient_lt size magnitude))

theorem tenfold_le (magnitude : Magnitude) :
    nearest (10 * nearest grains magnitude.size) 1 ≤ 2 ^ (quotientExponent + 4) := by
  refine Double.nearest_le_of_multiple Nat.one_pos (Double.spacing_two_pow_dvd _) ?_
  have quotient := quotient_le size magnitude
  rw [Nat.pow_add]
  omega

theorem tenthsOf_mul_le (magnitude : Magnitude) :
    tenthsOf magnitude grains * grainsPerUnit ≤ 2 ^ (quotientExponent + 4) := by
  have whole : 2 ^ (quotientExponent + 4) =
      2 ^ (quotientExponent + 4 - unitExponent) * grainsPerUnit := by
    rw [Double.grainsPerUnit_eq, ← Nat.pow_add, Nat.sub_add_cancel (by decide)]
  have most := Double.roundedPart_mono (tenfold_le size magnitude)
  rw [whole, Double.roundedPart_whole] at most
  rw [whole]
  exact Nat.mul_le_mul_right _ most

theorem tenth_tenthsOf_lt (magnitude : Magnitude) :
    tenth (tenthsOf magnitude grains) < 2 ^ (quotientExponent + 2) := by
  have within : tenth (tenthsOf magnitude grains) ≤ 2 ^ (quotientExponent + 1) := by
    refine Double.nearest_le_of_multiple (by decide) (Double.spacing_two_pow_dvd _) ?_
    have most := tenthsOf_mul_le size magnitude
    rw [Nat.pow_add] at most ⊢
    omega
  exact Nat.lt_of_le_of_lt within (Nat.pow_lt_pow_right (by decide) (by omega))

/-- The number of magnitudes is the double nearest to a number of tenths. -/
theorem hasSize_mantissa (magnitude : Magnitude) :
    HasSize (mantissa x magnitude) (tenth (tenthsOf magnitude grains)) := by
  have quotient : HasSize (x.div (.ofNat magnitude.size)) (nearest grains magnitude.size) :=
    size.div (hasSize_size magnitude) magnitude.size_pos (quotient_lt size magnitude) (by decide)
  have tenfold : 10 * nearest grains magnitude.size < 2 ^ (quotientExponent + 4) := by
    have most := quotient_le size magnitude
    have positive := Nat.two_pow_pos quotientExponent
    rw [Nat.pow_add]
    omega
  have rounded := (quotient.mul hasSize_ten tenfold (by decide)).round
  refine rounded.div hasSize_ten (by decide) ?_ (show quotientExponent + 1 < limitExponent by decide)
  have most := tenthsOf_mul_le size magnitude
  rw [Nat.div_lt_iff_lt_mul (by decide)]
  have positive := Nat.two_pow_pos quotientExponent
  rw [Nat.pow_add] at most ⊢
  change tenthsOf magnitude grains * grainsPerUnit < _
  omega

/-! ### Comparisons -/

theorem size_le_iff (magnitude : Magnitude) :
    (Double.ofNat magnitude.size).le x = true ↔ magnitude.size * grainsPerUnit ≤ grains :=
  (hasSize_size magnitude).le_iff size

theorem thousand_le_mantissa_iff {magnitude : Magnitude} (few : tenthsOf magnitude grains ≤ 10000) :
    (Double.ofNat 1000).le (mantissa x magnitude) = true ↔ 10000 ≤ tenthsOf magnitude grains := by
  rw [hasSize_thousand.le_iff (hasSize_mantissa size magnitude), Double.le_tenth_iff (by omega)]

end Finite

section Bounds

variable {magnitude : Magnitude} {grains part : Nat}

theorem le_tenthsOf (multiple : spacing part ∣ part) (multiple' : spacing (10 * part) ∣ 10 * part)
    (reached : magnitude.size * part ≤ grains) :
    roundedPart (10 * part) ≤ tenthsOf magnitude grains := by
  have quotient := Double.le_nearest_of_multiple magnitude.size_pos multiple reached
  exact Double.roundedPart_mono (Double.le_nearest_of_multiple Nat.one_pos multiple' (by omega))

theorem tenthsOf_le (multiple : spacing part ∣ part) (multiple' : spacing (10 * part) ∣ 10 * part)
    (within : grains ≤ magnitude.size * part) :
    tenthsOf magnitude grains ≤ roundedPart (10 * part) := by
  have quotient := Double.nearest_le_of_multiple magnitude.size_pos multiple within
  exact Double.roundedPart_mono (Double.nearest_le_of_multiple Nat.one_pos multiple' (by omega))

theorem tenthsOf_le_whole {w : Nat} (short : 10 * w ≤ Nat.pow 2 53)
    (within : grains ≤ magnitude.size * (w * grainsPerUnit)) :
    tenthsOf magnitude grains ≤ 10 * w := by
  have ones : Representable (w * grainsPerUnit) := Double.representable_whole (by omega)
  have tens := Double.representable_whole short
  rw [Nat.mul_assoc] at tens
  have most := tenthsOf_le ones.2 tens.2 within
  rwa [← Nat.mul_assoc, Double.roundedPart_whole] at most

theorem le_tenthsOf_whole {w : Nat} (short : 10 * w ≤ Nat.pow 2 53)
    (reached : magnitude.size * (w * grainsPerUnit) ≤ grains) :
    10 * w ≤ tenthsOf magnitude grains := by
  have ones : Representable (w * grainsPerUnit) := Double.representable_whole (by omega)
  have tens := Double.representable_whole short
  rw [Nat.mul_assoc] at tens
  have least := le_tenthsOf ones.2 tens.2 reached
  rwa [← Nat.mul_assoc, Double.roundedPart_whole] at least

end Bounds

end Quartermaster.Quantity

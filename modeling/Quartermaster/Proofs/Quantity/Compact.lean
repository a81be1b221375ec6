import Quartermaster.Proofs.Quantity.Mantissa
import Quartermaster.Proofs.Text.Numeral

/-!
Numbers named by their magnitude. For whole numbers the name is that of exact arithmetic
(`compact_ofNat`): doubles are rounded at every step on the way to the tenths of a magnitude, but
the tenths, the choice of the magnitude and the marker come out as if they were not.
-/

namespace Quartermaster.Quantity

open Double (HasSize clamp nearest roundedPart tenth wholePart)
open Text

/-! ### Exact arithmetic -/

/-- The largest magnitude that is not above a number. -/
def Magnitude.IsReached (magnitude : Magnitude) (n : Nat) : Prop :=
  magnitude.size ≤ n ∧ ∀ other : Magnitude, other.size ≤ n → other.size ≤ magnitude.size

/-- A number is at least a half of a magnitude and less than a thousand of it. -/
structure Magnitude.Covers (magnitude : Magnitude) (n : Nat) : Prop where
  low : magnitude.size ≤ 2 * n
  high : n < 1000 * magnitude.size

/-- How many tenths of a magnitude a number is, to the nearest with halves upward. -/
def tenthsIn (magnitude : Magnitude) (n : Nat) : Nat :=
  (2 * (10 * n) + magnitude.size) / (2 * magnitude.size)

/-- The next magnitude, if there is one and a number has ten thousand tenths of this one. -/
def Magnitude.raised (magnitude : Magnitude) (n : Nat) : Magnitude :=
  if 10000 ≤ tenthsIn magnitude n then magnitude.next?.getD magnitude else magnitude

def tenthsText (locale : Locale) (k : Nat) : List Char :=
  if k % 10 = 0 then natural (k / 10)
  else natural (k / 10) ++ locale.decimalMark :: natural (k % 10)

/-- The name of a number in tenths of a magnitude, marked if that is another number. -/
def exactName (locale : Locale) (magnitude : Magnitude) (n : Nat) : String :=
  let k := tenthsIn magnitude n
  let name := String.ofList (tenthsText locale k) ++ " " ++ Magnitude.word locale magnitude (k = 10)
  if k * magnitude.size = 10 * n then name else "≈ " ++ name

/-! ### Tenths -/

theorem hasSize_mul_ten {x : Double} {grains : Nat} (size : HasSize x grains)
    (below : 10 * grains < 2 ^ 64 * grainsPerUnit) :
    HasSize (x.mul ten) (nearest (10 * grains) 1) :=
  size.mul hasSize_ten (Double.lt_two_pow_of_lt_whole (Nat.le_refl _) below) (by decide)

theorem scaledByTen_eq {x : Double} {grains k : Nat} (size : HasSize x grains)
    (below : 10 * grains < 2 ^ 64 * grainsPerUnit)
    (rounded : roundedPart (nearest (10 * grains) 1) = k) (short : k < 2 ^ 127) :
    scaledByTen x = k := by
  rw [scaledByTen, (hasSize_mul_ten size below).roundWithin, rounded, clamp, wideLimit_eq]
  omega

theorem wholeText_eq {x : Double} {grains w : Nat} (size : HasSize x grains)
    (whole : wholePart grains = w) (short : w < 2 ^ 53) : wholeText x = natural w := by
  obtain ⟨_, rfl⟩ := size
  subst whole
  exact if_pos short

section Tenth

variable {k : Nat} (few : k < 1024 * 10)

include few

theorem tenfold_tenth_lt : 10 * tenth k < 2 ^ 64 * grainsPerUnit := by
  have bound := Double.tenfold_lt (by decide) few
  exact Nat.lt_of_lt_of_le bound (Nat.mul_le_mul_right _ (by decide))

theorem oneDecimal_tenth (locale : Locale) {x : Double} (size : HasSize x (tenth k)) :
    oneDecimal locale x = tenthsText locale k := by
  have whole := Double.wholePart_tenth few
  have text : wholeText x = natural (k / 10) := wholeText_eq size whole (by omega)
  have trunc := size.trunc
  rw [whole] at trunc
  have atMost := (Double.le_tenth_iff few (k / 10)).mpr (by omega)
  have tenfold := tenfold_tenth_lt few
  have short : tenth k < 2 ^ 64 * grainsPerUnit := by omega
  have below := Double.lt_two_pow_of_lt_whole (Nat.le_refl _) short
  have rest := size.sub trunc atMost below (by decide)
  have scaled := hasSize_mul_ten rest (Nat.lt_of_lt_of_le
    (Double.ten_mul_rest_lt few _) (Nat.mul_le_mul_right _ (by decide)))
  have digit : ((x.sub x.trunc).mul ten).roundInt64.toInt = (k % 10 : Nat) :=
    scaled.toInt_roundInt64 (Double.roundedPart_ten_mul_rest few) (by omega)
  have none : ((k % 10 : Nat) : Int) = 0 ↔ k % 10 = 0 := by omega
  simp only [oneDecimal, tenthsText, digit, text, integer_natCast, none]

end Tenth

section Name

variable {n : Nat} {magnitude : Magnitude}

theorem tenthsIn_le (covered : magnitude.Covers n) : tenthsIn magnitude n ≤ 10000 := by
  have high := covered.high
  refine Nat.le_of_lt_succ ((Nat.div_lt_iff_lt_mul (by omega)).mpr ?_)
  omega

theorem tenthsOf_whole (covered : magnitude.Covers n) :
    tenthsOf magnitude (n * grainsPerUnit) = tenthsIn magnitude n := by
  obtain ⟨low, high⟩ := covered
  have positive := magnitude.size_pos
  have small : magnitude.size < 1099511627776 :=
    Nat.lt_of_le_of_lt magnitude.size_le (by decide)
  rw [tenthsOf, Double.roundedPart_tenths magnitude.twenty_dvd_size small positive low (by omega),
    tenthsIn, ← Nat.mul_assoc]

variable (exactly : 10 * n ≤ 2 ^ 53)

include exactly

theorem hasSize_ofNat_of_exactly : HasSize (.ofNat n) (n * grainsPerUnit) :=
  Double.hasSize_ofNat (show n ≤ 2 ^ 53 by omega)

theorem scaledByTen_ofNat : scaledByTen (.ofNat n) = (10 * n : Nat) := by
  refine scaledByTen_eq (hasSize_ofNat_of_exactly exactly) ?_ ?_ (by omega)
  · rw [← Nat.mul_assoc]
    exact Nat.mul_lt_mul_of_pos_right (by omega) Double.grainsPerUnit_pos
  · rw [← Nat.mul_assoc, Double.nearest_whole exactly]
    exact Double.roundedPart_of_near (by omega) (by omega)

variable (covered : magnitude.Covers n)

include covered

/-- The number of magnitudes is the double nearest to the exact tenths. -/
theorem hasSize_mantissa_ofNat :
    HasSize (mantissa (.ofNat n) magnitude) (tenth (tenthsIn magnitude n)) := by
  rw [← tenthsOf_whole covered]
  exact hasSize_mantissa (hasSize_ofNat_of_exactly exactly) magnitude

theorem isApproximate_ofNat :
    isApproximate (.ofNat n) magnitude = true ↔ tenthsIn magnitude n * magnitude.size ≠ 10 * n := by
  have few := tenthsIn_le covered
  have size := hasSize_mantissa_ofNat exactly covered
  have tenths : scaledByTen (mantissa (.ofNat n) magnitude) = tenthsIn magnitude n :=
    scaledByTen_eq size (tenfold_tenth_lt (by omega))
      (Double.roundedPart_ten_mul_tenth (by omega)) (by omega)
  have expanded : (tenthsIn magnitude n : Int) * magnitude.size =
      (tenthsIn magnitude n * magnitude.size : Nat) := (Int.natCast_mul _ _).symm
  simp only [isApproximate, tenths, scaledByTen_ofNat exactly, wideLimit_eq, expanded,
    Bool.or_eq_true, decide_eq_true_eq]
  omega

theorem reachesThousand_iff :
    (Double.ofNat 1000).le (mantissa (.ofNat n) magnitude) = true ↔
      10000 ≤ tenthsIn magnitude n := by
  have tenths := tenthsOf_whole covered
  have few := tenthsIn_le covered
  rw [← tenths] at few ⊢
  exact thousand_le_mantissa_iff (hasSize_ofNat_of_exactly exactly) few

theorem isOne_iff :
    (mantissa (.ofNat n) magnitude).eqv (.ofNat 1) = true ↔ tenthsIn magnitude n = 10 := by
  have few := tenthsIn_le covered
  have one : HasSize (.ofNat 1) (1 * grainsPerUnit) := Double.hasSize_ofNat (by decide)
  rw [(hasSize_mantissa_ofNat exactly covered).eqv_iff one, Double.tenth_eq_iff (by omega)]

end Name

/-! ### The choice of the magnitude -/

section Choice

variable {n : Nat} {magnitude : Magnitude}

namespace Magnitude

theorem size_of_next? {above : Magnitude} (next : magnitude.next? = some above) :
    above.size = 1000 * magnitude.size := by
  cases magnitude <;> cases next <;> rfl

theorem Covers.raised (covered : magnitude.Covers n) : (magnitude.raised n).Covers n := by
  unfold Magnitude.raised
  split
  · rename_i many
    cases next : magnitude.next? with
    | none => exact covered
    | some above =>
      obtain ⟨-, high⟩ := covered
      have enough := (Nat.le_div_iff_mul_le (by omega)).mp many
      have greater := size_of_next? next
      rw [Option.getD_some]
      constructor <;> omega
  · exact covered

variable (exactly : 10 * n ≤ 2 ^ 53)

include exactly

theorem size_le_ofNat_iff (magnitude : Magnitude) :
    (Double.ofNat magnitude.size).le (.ofNat n) = true ↔ magnitude.size ≤ n := by
  rw [size_le_iff (hasSize_ofNat_of_exactly exactly)]
  exact Nat.mul_le_mul_right_iff Double.grainsPerUnit_pos

theorem isReached_ofDouble (large : 1000 ≤ n) : (ofDouble (.ofNat n)).IsReached n := by
  simp only [ofDouble, size_le_ofNat_iff exactly]
  split_ifs with trillion billion million
  all_goals
    refine ⟨by assumption, fun other => ?_⟩
    cases other <;> simp only [size] at * <;> omega

theorem IsReached.covers (reached : magnitude.IsReached n) : magnitude.Covers n := by
  obtain ⟨within, largest⟩ := reached
  refine ⟨by omega, ?_⟩
  by_contra more
  cases next : magnitude.next? with
  | none =>
    cases magnitude <;> cases next
    simp only [size] at more
    omega
  | some above =>
    have positive := magnitude.size_pos
    have greater := size_of_next? next
    have smaller := largest above (by omega)
    omega

end Magnitude

theorem magnitudeOf_ofNat (exactly : 10 * n ≤ 2 ^ 53) (large : 1000 ≤ n) :
    magnitudeOf (.ofNat n) = (Magnitude.ofDouble (.ofNat n)).raised n := by
  have covered := (Magnitude.isReached_ofDouble exactly large).covers exactly
  simp only [magnitudeOf, reachesThousand_iff exactly covered, Magnitude.raised]

end Choice

theorem nameable {n : Nat} (large : 1000 ≤ n) (exactly : 10 * n ≤ 2 ^ 53) :
    (!(Double.ofNat n).isFinite || (Double.ofNat n).lt (.ofNat 1000)) = false := by
  have size := hasSize_ofNat_of_exactly exactly
  have above : ¬(Double.ofNat n).lt (.ofNat 1000) = true := by
    rw [size.lt_iff hasSize_thousand]
    exact Nat.not_lt_of_le (Nat.mul_le_mul_right _ large)
  rw [size.isFinite, Bool.eq_false_of_not_eq_true above]
  rfl

/-- The name of a whole number is the one that exact arithmetic gives. -/
theorem compact_ofNat (locale : Locale) {n : Nat} (large : 1000 ≤ n) (exactly : 10 * n ≤ 2 ^ 53) :
    ∃ reached : Magnitude, reached.IsReached n ∧
      compact locale (.ofNat n) = exactName locale (reached.raised n) n := by
  have reached := Magnitude.isReached_ofDouble exactly large
  refine ⟨_, reached, ?_⟩
  have covered := (reached.covers exactly).raised
  have few := tenthsIn_le covered
  have text := oneDecimal_tenth (by omega) locale (hasSize_mantissa_ofNat exactly covered)
  have singular := Bool.eq_iff_iff.mpr
    ((isOne_iff exactly covered).trans (decide_eq_true_iff (p := _ = 10)).symm)
  simp only [compact, nameable large exactly, magnitudeOf_ofNat exactly large, text, singular,
    isApproximate_ofNat exactly covered, exactName, approximationMarker, Bool.false_eq_true,
    if_false, ite_not]

/-- A number that is raised to the next magnitude, of which it is not exactly one. -/
theorem compact_ofNat_almostMillion :
    1000 ≤ 999950 ∧ 10 * 999950 ≤ 2 ^ 53 ∧ ∃ reached : Magnitude, reached.IsReached 999950 ∧
      compact .spanish (.ofNat 999950) = exactName .spanish (reached.raised 999950) 999950 :=
  ⟨by decide, by decide, compact_ofNat .spanish (by decide) (by decide)⟩

/-- A number that is a half of a tenth below a million is named by the million. -/
example : exactName .spanish (Magnitude.thousand.raised 999950) 999950 = "≈ 1 millón" := by cbv

end Quartermaster.Quantity

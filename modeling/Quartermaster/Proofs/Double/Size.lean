import Quartermaster.Proofs.Double.Nearest

/-!
Arithmetic of finite numbers that are not negative, in terms of their sizes: what the sum of the
definitions in `Double` comes to when no operation overflows.
-/

namespace Quartermaster.Double

/-- A finite number that is not negative has this size. -/
def HasSize (x : Double) (grains : Nat) : Prop :=
  ∃ representable, x = .finite false grains representable

variable {x y : Double} {grains other : Nat}

theorem pow_two_eq (exponent : Nat) : Nat.pow 2 exponent = 2 ^ exponent := rfl

theorem grainsPerUnit_eq : grainsPerUnit = 2 ^ unitExponent := by
  unfold grainsPerUnit
  exact pow_two_eq unitExponent

theorem lt_two_pow_of_lt_whole {count exponent : Nat} (within : count ≤ 2 ^ exponent)
    (below : grains < count * grainsPerUnit) : grains < 2 ^ (exponent + unitExponent) := by
  rw [Nat.pow_add, ← grainsPerUnit_eq]
  exact Nat.lt_of_lt_of_le below (Nat.mul_le_mul_right _ within)

/-! ### Where sizes come from -/

theorem ofGrains_of_representable (negative : Bool) (representable : Representable grains) :
    ofGrains negative grains = .finite negative grains representable := by
  rw [ofGrains, dif_pos representable]

theorem hasSize_ofGrainRatio {top bottom exponent : Nat} (positive : 0 < bottom)
    (below : top / bottom < 2 ^ exponent) (fits : exponent < limitExponent) :
    HasSize (ofGrainRatio false top bottom) (nearest top bottom) := by
  have representable := representable_nearest positive below fits
  exact ⟨representable, ofGrains_of_representable false representable⟩

theorem representable_whole {n : Nat} (short : n ≤ Nat.pow 2 53) :
    Representable (n * grainsPerUnit) := by
  rw [grainsPerUnit_eq]
  refine representable_mul_two_pow short ?_
  calc n * 2 ^ unitExponent ≤ Nat.pow 2 53 * 2 ^ unitExponent := Nat.mul_le_mul_right _ short
    _ = 2 ^ (unitExponent + 53) := by rw [Nat.pow_add, Nat.mul_comm]
    _ < Nat.pow 2 limitExponent := two_pow_lt (by decide)

/-- Whole numbers of up to 53 binary digits are not rounded. -/
theorem nearest_whole {n : Nat} (short : n ≤ Nat.pow 2 53) :
    nearest (n * grainsPerUnit) 1 = n * grainsPerUnit := by
  refine nearest_of_eq Nat.one_pos ?_ (Nat.one_mul _).symm
  rw [Nat.div_one]
  exact (representable_whole short).2

theorem hasSize_ofNat {n : Nat} (short : n ≤ Nat.pow 2 53) :
    HasSize (ofNat n) (n * grainsPerUnit) := by
  have rounded : ofNat n = ofGrains false (nearest (n * grainsPerUnit) 1) := rfl
  rw [rounded, nearest_whole short]
  exact ⟨representable_whole short, ofGrains_of_representable false _⟩

namespace HasSize

theorem isFinite (size : HasSize x grains) : x.isFinite = true := by
  obtain ⟨_, rfl⟩ := size
  rfl

theorem le_iff (size : HasSize x grains) (size' : HasSize y other) :
    x.le y = true ↔ grains ≤ other := by
  obtain ⟨_, rfl⟩ := size
  obtain ⟨_, rfl⟩ := size'
  simp [le, lt, signedGrains]

theorem lt_iff (size : HasSize x grains) (size' : HasSize y other) :
    x.lt y = true ↔ grains < other := by
  obtain ⟨_, rfl⟩ := size
  obtain ⟨_, rfl⟩ := size'
  simp [lt, signedGrains]

theorem eqv_iff (size : HasSize x grains) (size' : HasSize y other) :
    x.eqv y = true ↔ grains = other := by
  simp only [eqv, Bool.and_eq_true, size.le_iff size', size'.le_iff size]
  omega

/-! ### Arithmetic -/

/-- A product with a whole number is rounded once, and it may be too large. -/
theorem mul_eq {m : Nat} (size : HasSize x grains) (whole : HasSize y (m * grainsPerUnit)) :
    x.mul y = ofGrains false (nearest (m * grains) 1) := by
  obtain ⟨_, rfl⟩ := size
  obtain ⟨_, rfl⟩ := whole
  have scaled : grains * (m * grainsPerUnit) = m * grains * grainsPerUnit := by ring
  have same : nearest (grains * (m * grainsPerUnit)) grainsPerUnit = nearest (m * grains) 1 := by
    have cancelled := nearest_mul_right (m * grains) 1 grainsPerUnit_pos
    rwa [Nat.one_mul, ← scaled] at cancelled
  rw [← same]
  rfl

theorem mul {m exponent : Nat} (size : HasSize x grains) (whole : HasSize y (m * grainsPerUnit))
    (below : m * grains < 2 ^ exponent) (fits : exponent < limitExponent) :
    HasSize (x.mul y) (nearest (m * grains) 1) := by
  have representable : Representable (nearest (m * grains) 1) :=
    representable_nearest Nat.one_pos (by rwa [Nat.div_one]) fits
  rw [size.mul_eq whole]
  exact ⟨representable, ofGrains_of_representable false representable⟩

theorem div {m exponent : Nat} (size : HasSize x grains) (whole : HasSize y (m * grainsPerUnit))
    (positive : 0 < m) (below : grains / m < 2 ^ exponent) (fits : exponent < limitExponent) :
    HasSize (x.div y) (nearest grains m) := by
  obtain ⟨_, rfl⟩ := size
  obtain ⟨_, rfl⟩ := whole
  have divisor := Nat.mul_pos positive grainsPerUnit_pos
  rw [← nearest_mul_right grains m grainsPerUnit_pos]
  simp only [Double.div]
  rw [if_neg (Nat.ne_of_gt divisor)]
  refine hasSize_ofGrainRatio divisor ?_ fits
  rwa [Nat.mul_div_mul_right _ _ grainsPerUnit_pos]

theorem sub {exponent : Nat} (size : HasSize x grains) (size' : HasSize y other)
    (atMost : other ≤ grains) (below : grains < 2 ^ exponent) (fits : exponent < limitExponent) :
    HasSize (x.sub y) (nearest (grains - other) 1) := by
  obtain ⟨_, rfl⟩ := size
  obtain ⟨_, rfl⟩ := size'
  have difference : ((grains : Int) - other).natAbs = grains - other := by omega
  have notNegative : ¬(grains : Int) - other < 0 := by omega
  simp only [Double.sub, signedGrains, Bool.false_eq_true, if_false, Bool.false_and]
  split
  · rename_i none
    have zero : nearest (grains - other) 1 = 0 :=
      nearest_of_eq Nat.one_pos (Nat.dvd_zero _) (by omega)
    rw [zero]
    exact ⟨representable_zero, rfl⟩
  · rw [difference, decide_eq_false notNegative]
    refine hasSize_ofGrainRatio Nat.one_pos ?_ fits
    rw [Nat.div_one]
    omega

theorem roundWithin (size : HasSize x grains) (low high : Int) :
    x.roundWithin low high = clamp low high (roundedPart grains) := by
  obtain ⟨_, rfl⟩ := size
  rfl

theorem toInt_roundInt64 {w : Nat} (size : HasSize x grains) (rounded : roundedPart grains = w)
    (short : w < 2 ^ 63) : x.roundInt64.toInt = w := by
  have low : Int64.minValue.toInt = -2 ^ 63 := by decide
  have high : Int64.maxValue.toInt = 2 ^ 63 - 1 := by decide
  have clamped : clamp (-2 ^ 63) (2 ^ 63 - 1) w = w := by
    rw [clamp]
    omega
  rw [Double.roundInt64, size.roundWithin, low, high, rounded, clamped]
  exact Int64.toInt_ofInt_of_le (by omega) (by omega)

end HasSize

end Quartermaster.Double

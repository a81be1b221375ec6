import Quartermaster.Proofs.Double.Size

/-!
Rounding to tenths in doubles. Dividing by a magnitude, multiplying by ten and dividing by ten all
round, each time by so little that the tenths come out as in exact arithmetic
(`roundedPart_tenths`): a ratio below a half stays below it, as it is at least ten magnitudes' part
away, and a ratio of at least a half reaches it, as the half is an even multiple of the spacing.
-/

namespace Quartermaster.Double

/-! ### The scale of errors -/

/-- Errors are counted in two to this power in grains. -/
def fineExponent : Nat := 1031

/-- What errors are counted in: numbers below 1024 have at most this spacing. -/
def fine : Nat := Nat.pow 2 fineExponent

theorem fine_pos : 0 < fine := by
  unfold fine
  exact powerOfTwo_pos fineExponent

theorem two_pow_fineExponent : 2 ^ fineExponent = fine := by
  unfold fine
  exact (pow_two_eq fineExponent).symm

theorem grainsPerUnit_eq_fine : grainsPerUnit = 8796093022208 * fine := by
  have exponents : unitExponent = 43 + fineExponent := by decide
  rw [grainsPerUnit_eq, exponents, Nat.pow_add, two_pow_fineExponent]

theorem spacing_dvd_fine {grains : Nat} (below : grains < 1024 * grainsPerUnit) :
    spacing grains ∣ fine := by
  have binade : 2 ^ (fineExponent + 53) = 1024 * grainsPerUnit := by
    rw [Nat.pow_add, two_pow_fineExponent, grainsPerUnit_eq_fine]
    ring
  rw [← two_pow_fineExponent]
  exact spacing_dvd_two_pow (by rwa [binade])

theorem spacing_dvd_coarse {grains : Nat} (below : grains < 16384 * grainsPerUnit) :
    spacing grains ∣ 16 * fine := by
  have binade : 2 ^ (fineExponent + 4 + 53) = 16384 * grainsPerUnit := by
    rw [Nat.add_assoc, Nat.pow_add, two_pow_fineExponent, grainsPerUnit_eq_fine]
    ring
  have coarse : 2 ^ (fineExponent + 4) = 16 * fine := by
    rw [Nat.pow_add, two_pow_fineExponent]
    ring
  rw [← coarse]
  exact spacing_dvd_two_pow (by rwa [binade])

/-- Ten times a rounded ratio lies at least three binades above the ratio. -/
theorem eight_mul_spacing_dvd {top bottom : Nat} (positive : 0 < bottom)
    (large : 2 ^ 52 ≤ top / bottom) :
    8 * spacing (top / bottom) ∣ spacing (10 * nearest top bottom) := by
  have some : top / bottom ≠ 0 := by omega
  let exponent := (top / bottom).log2
  have enough : 52 ≤ exponent := (Nat.le_log2 some).mpr large
  have start : 2 ^ exponent ≤ top / bottom := (Nat.le_log2 some).mp (Nat.le_refl _)
  have reached : 2 ^ exponent ≤ nearest top bottom := by
    refine le_nearest positive (Nat.pow_dvd_pow 2 (by omega)) ?_
    rw [Nat.mul_comm]
    exact (Nat.le_div_iff_mul_le positive).mp start
  have above : 2 ^ (exponent - 52 + 3 + 52) ≤ 10 * nearest top bottom := by
    have exponents : exponent - 52 + 3 + 52 = exponent + 3 := by omega
    rw [exponents, Nat.pow_add]
    omega
  have eight : 8 * spacing (top / bottom) = 2 ^ (exponent - 52 + 3) := by
    rw [Nat.pow_add, Nat.mul_comm]
    rfl
  rw [eight]
  exact two_pow_dvd_spacing above

/-! ### Ten times a ratio -/

section Halves

variable {n size j : Nat}

/-- The middle between two whole numbers, in grains. -/
def middle (j : Nat) : Nat := (2 * j + 1) * 4398046511104 * fine

theorem two_mul_middle (j : Nat) : 2 * middle j = (2 * j + 1) * grainsPerUnit := by
  rw [middle, grainsPerUnit_eq_fine]
  ring

theorem le_add_four_mul {step x y : Nat} (even : 2 * step ∣ x) (even' : 2 * step ∣ y)
    (near : y ≤ x + 5 * step) : y ≤ x + 4 * step := by
  obtain ⟨count, rfl⟩ := even
  obtain ⟨count', rfl⟩ := even'
  by_contra far
  have some : 0 < step := by
    refine Nat.pos_of_ne_zero fun none => ?_
    subst none
    omega
  have apart : count + 2 < count' := by
    by_contra close
    have bound := Nat.mul_le_mul_left (2 * step) (Nat.le_of_not_lt close)
    have split : 2 * step * (count + 2) = 2 * step * count + 4 * step := by ring
    omega
  have bound := Nat.mul_le_mul_left (2 * step) apart
  have split : 2 * step * (count + 2 + 1) = 2 * step * count + 6 * step := by ring
  have near : 2 * step * (count + 2).succ ≤ 2 * step * count + 5 * step := bound.trans near
  rw [Nat.succ_eq_add_one, split] at near
  omega

theorem fine_dvd_middle (j : Nat) : 32 * fine ∣ middle j :=
  ⟨(2 * j + 1) * 137438953472, by rw [middle]; ring⟩

theorem add_twenty_le (tens : 20 ∣ size) (below : 20 * n < (2 * j + 1) * size) :
    20 * n + 20 ≤ (2 * j + 1) * size := by
  obtain ⟨part, rfl⟩ := tens
  have split : (2 * j + 1) * (20 * part) = 20 * ((2 * j + 1) * part) := by ring
  omega

variable (positive : 0 < size)

include positive

theorem quotient_lt (high : n < 1024 * size) :
    n * grainsPerUnit / size < 1024 * grainsPerUnit := by
  rw [Nat.div_lt_iff_lt_mul positive]
  have bound := Nat.mul_lt_mul_of_pos_right high grainsPerUnit_pos
  calc n * grainsPerUnit < 1024 * size * grainsPerUnit := bound
    _ = 1024 * grainsPerUnit * size := by ring

theorem two_pow_le_quotient (low : size ≤ 2 * n) : 2 ^ 52 ≤ n * grainsPerUnit / size := by
  have large : 1024 ≤ fine := by
    have exponents : 2 ^ 10 ≤ 2 ^ fineExponent := Nat.pow_le_pow_right Nat.two_pos (by decide)
    rwa [two_pow_fineExponent] at exponents
  rw [Nat.le_div_iff_mul_le positive]
  have bound := Nat.mul_le_mul_right (4398046511104 * fine) low
  have half : 2 * n * (4398046511104 * fine) = n * grainsPerUnit := by
    rw [grainsPerUnit_eq_fine]
    ring
  have enough : size * 2 ^ 52 ≤ size * (4398046511104 * fine) :=
    Nat.mul_le_mul_left size (by omega)
  rw [Nat.mul_comm]
  omega

theorem nearest_le_limit (high : n < 1024 * size) :
    nearest (n * grainsPerUnit) size ≤ 1024 * grainsPerUnit := by
  refine nearest_le positive ?_ ?_
  · refine (spacing_dvd_fine (quotient_lt positive high)).trans ⟨1024 * 8796093022208, ?_⟩
    rw [grainsPerUnit_eq_fine]
    ring
  · have bound := Nat.mul_le_mul_right grainsPerUnit (Nat.le_of_lt high)
    calc n * grainsPerUnit ≤ 1024 * size * grainsPerUnit := bound
      _ = size * (1024 * grainsPerUnit) := by ring

theorem tenfold_lt (high : n < 1024 * size) :
    10 * nearest (n * grainsPerUnit) size < 16384 * grainsPerUnit := by
  have within := nearest_le_limit positive high
  have grains := grainsPerUnit_pos
  omega

theorem spacing_tenfold_dvd (high : n < 1024 * size) :
    spacing (10 * nearest (n * grainsPerUnit) size) ∣ 16 * fine :=
  spacing_dvd_coarse (tenfold_lt positive high)

/-- The first rounding takes at most half a step, which is five times ten. -/
theorem middle_le_tenfold_add (reached : (2 * j + 1) * size ≤ 20 * n) :
    middle j ≤ 10 * nearest (n * grainsPerUnit) size + 5 * spacing (n * grainsPerUnit / size) := by
  have off := le_two_mul_nearest positive (n * grainsPerUnit)
  revert off
  generalize nearest (n * grainsPerUnit) size = quotient
  generalize spacing (n * grainsPerUnit / size) = step
  intro off
  have scaled : size * (2 * middle j) ≤ size * (20 * quotient + 10 * step) := by
    calc size * (2 * middle j) = (2 * j + 1) * size * grainsPerUnit := by
          rw [two_mul_middle]
          ring
      _ ≤ 20 * n * grainsPerUnit := Nat.mul_le_mul_right _ reached
      _ = 10 * (2 * (n * grainsPerUnit)) := by ring
      _ ≤ 10 * (2 * (size * quotient) + size * step) := Nat.mul_le_mul_left 10 off
      _ = size * (20 * quotient + 10 * step) := by ring
  have cancelled := Nat.le_of_mul_le_mul_left scaled positive
  omega

theorem middle_le_nearest (low : size ≤ 2 * n) (high : n < 1024 * size)
    (reached : (2 * j + 1) * size ≤ 20 * n) :
    middle j ≤ nearest (10 * nearest (n * grainsPerUnit) size) 1 := by
  have fineSpacing := spacing_dvd_fine (quotient_lt positive high)
  have coarseSpacing := spacing_tenfold_dvd positive high
  have wider := eight_mul_spacing_dvd positive (two_pow_le_quotient positive low)
  have multiple := spacing_dvd_nearest (n * grainsPerUnit) size
  have near := middle_le_tenfold_add positive reached
  revert fineSpacing coarseSpacing wider multiple near
  generalize nearest (n * grainsPerUnit) size = quotient
  generalize spacing (n * grainsPerUnit / size) = step
  intro fineSpacing coarseSpacing wider multiple near
  have even : 2 * step ∣ 10 * quotient := by
    obtain ⟨count, rfl⟩ := multiple
    exact ⟨5 * count, by ring⟩
  have even' : 2 * step ∣ middle j :=
    (Nat.mul_dvd_mul_left 2 fineSpacing).trans
      ((Dvd.intro_left 16 (by ring)).trans (fine_dvd_middle j))
  -- both are even multiples of the step, so four steps are enough, half the spacing of ten times
  have nearer := le_add_four_mul even even' near
  have spaced : step * 8 ≤ spacing (10 * quotient) := by
    rw [Nat.mul_comm]
    exact Nat.le_of_dvd (spacing_pos _) wider
  refine le_nearest_of_even Nat.one_pos ?_ ?_
  · rw [Nat.div_one]
    exact (Nat.mul_dvd_mul_left 2 coarseSpacing).trans
      ((Dvd.intro_left 1 (by ring)).trans (fine_dvd_middle j))
  · rw [Nat.div_one]
    omega

/-- The gap of twenty parts of a size is more than what both roundings can take. -/
theorem tenfold_add_le_middle (tens : 20 ∣ size) (small : size < 1099511627776)
    (high : n < 1024 * size) (below : 20 * n < (2 * j + 1) * size) :
    10 * nearest (n * grainsPerUnit) size + 75 * fine ≤ middle j := by
  have fineSpacing := Nat.le_of_dvd fine_pos (spacing_dvd_fine (quotient_lt positive high))
  have off := two_mul_nearest_le positive (n * grainsPerUnit)
  have apart := add_twenty_le tens below
  revert fineSpacing off
  generalize nearest (n * grainsPerUnit) size = quotient
  generalize spacing (n * grainsPerUnit / size) = step
  intro fineSpacing off
  have gap : size * (160 * fine) ≤ 20 * grainsPerUnit := by
    have bound := Nat.mul_le_mul_right (160 * fine) (Nat.le_of_lt small)
    rw [grainsPerUnit_eq_fine]
    omega
  have scaled : size * (20 * quotient + 160 * fine) ≤ size * (2 * middle j + 10 * step) := by
    calc size * (20 * quotient + 160 * fine)
        = 10 * (2 * (size * quotient)) + size * (160 * fine) := by ring
      _ ≤ 10 * (2 * (n * grainsPerUnit) + size * step) + 20 * grainsPerUnit :=
          Nat.add_le_add (Nat.mul_le_mul_left 10 off) gap
      _ = (20 * n + 20) * grainsPerUnit + size * (10 * step) := by ring
      _ ≤ (2 * j + 1) * size * grainsPerUnit + size * (10 * step) :=
          Nat.add_le_add_right (Nat.mul_le_mul_right _ apart) _
      _ = size * ((2 * j + 1) * grainsPerUnit) + size * (10 * step) := by ring
      _ = size * (2 * middle j + 10 * step) := by rw [two_mul_middle, Nat.mul_add]
  have cancelled := Nat.le_of_mul_le_mul_left scaled positive
  omega

theorem nearest_lt_middle (tens : 20 ∣ size) (small : size < 1099511627776)
    (high : n < 1024 * size) (below : 20 * n < (2 * j + 1) * size) :
    nearest (10 * nearest (n * grainsPerUnit) size) 1 < middle j := by
  have near := tenfold_add_le_middle positive tens small high below
  have coarseSpacing := spacing_tenfold_dvd positive high
  revert near coarseSpacing
  generalize nearest (n * grainsPerUnit) size = quotient
  intro near coarseSpacing
  have grains := fine_pos
  have spaced : spacing (10 * quotient) ≤ 16 * fine := Nat.le_of_dvd (by omega) coarseSpacing
  have within : nearest (10 * quotient) 1 ≤ middle j - spacing (10 * quotient) := by
    refine nearest_le Nat.one_pos ?_ ?_
    · rw [Nat.div_one]
      refine Nat.dvd_sub ?_ (Nat.dvd_refl _)
      exact coarseSpacing.trans ((Dvd.intro_left 2 (by ring)).trans (fine_dvd_middle j))
    · omega
  have some := spacing_pos (10 * quotient)
  omega

end Halves

/-- Ten times a ratio, rounded twice on the way, is rounded as in exact arithmetic. -/
theorem roundedPart_tenths {n size : Nat} (tens : 20 ∣ size) (small : size < 1099511627776)
    (positive : 0 < size) (low : size ≤ 2 * n) (high : n < 1024 * size) :
    roundedPart (nearest (10 * nearest (n * grainsPerUnit) size) 1) =
      (20 * n + size) / (2 * size) := by
  have grains := grainsPerUnit_pos
  refine eq_of_forall_lt_iff fun j => ?_
  have half := two_mul_middle j
  have rounded : j < roundedPart (nearest (10 * nearest (n * grainsPerUnit) size) 1) ↔
      middle j ≤ nearest (10 * nearest (n * grainsPerUnit) size) 1 := by
    rw [roundedPart, ← Nat.succ_le_iff, Nat.le_div_iff_mul_le (by omega)]
    have split : (j + 1) * (2 * grainsPerUnit) =
        (2 * j + 1) * grainsPerUnit + grainsPerUnit := by ring
    rw [Nat.succ_eq_add_one, split]
    omega
  have exactly : j < (20 * n + size) / (2 * size) ↔ (2 * j + 1) * size ≤ 20 * n := by
    rw [← Nat.succ_le_iff, Nat.le_div_iff_mul_le (by omega)]
    have split : (j + 1) * (2 * size) = (2 * j + 1) * size + size := by ring
    rw [Nat.succ_eq_add_one, split]
    omega
  rw [rounded, exactly]
  constructor
  · intro reached
    by_contra below
    have stays := nearest_lt_middle positive tens small high (Nat.lt_of_not_le below)
    omega
  · exact middle_le_nearest positive low high

/-! ### A tenth of a whole number -/

def tenth (k : Nat) : Nat := nearest (k * grainsPerUnit) 10

theorem roundedPart_of_near {grains m : Nat}
    (above : 2 * (m * grainsPerUnit) ≤ 2 * grains + 200 * fine)
    (below : 2 * grains ≤ 2 * (m * grainsPerUnit) + 200 * fine) : roundedPart grains = m := by
  have scale := grainsPerUnit_eq_fine
  have some := fine_pos
  have start : m * (2 * grainsPerUnit) = 2 * (m * grainsPerUnit) := by ring
  have stop : (m + 1) * (2 * grainsPerUnit) = 2 * (m * grainsPerUnit) + 2 * grainsPerUnit := by ring
  refine Nat.div_eq_of_lt_le ?_ ?_
  · omega
  · omega

theorem nearest_one_near {grains : Nat} (below : grains < 16384 * grainsPerUnit) :
    2 * nearest grains 1 ≤ 2 * grains + 16 * fine ∧
      2 * grains ≤ 2 * nearest grains 1 + 16 * fine := by
  have some := fine_pos
  have step := Nat.le_of_dvd (by omega) (spacing_dvd_coarse below)
  have above := two_mul_nearest_le Nat.one_pos grains
  have below := le_two_mul_nearest Nat.one_pos grains
  rw [Nat.div_one] at above below
  omega

section Tenth

variable {k : Nat} (few : k < 1024 * 10)

include few

theorem tenth_near : 20 * tenth k ≤ 2 * (k * grainsPerUnit) + 10 * fine ∧
    2 * (k * grainsPerUnit) ≤ 20 * tenth k + 10 * fine := by
  have positive : 0 < 10 := by decide
  have step := Nat.le_of_dvd fine_pos (spacing_dvd_fine (quotient_lt positive few))
  have above := two_mul_nearest_le positive (k * grainsPerUnit)
  have below := le_two_mul_nearest positive (k * grainsPerUnit)
  unfold tenth
  omega

theorem le_tenth_iff (w : Nat) : w * grainsPerUnit ≤ tenth k ↔ 10 * w ≤ k := by
  have positive : 0 < 10 := by decide
  constructor
  · intro reached
    by_contra less
    obtain ⟨above, -⟩ := tenth_near few
    have apart : (k + 1) * grainsPerUnit ≤ 10 * w * grainsPerUnit :=
      Nat.mul_le_mul_right _ (by omega)
    have split : (k + 1) * grainsPerUnit = k * grainsPerUnit + grainsPerUnit := by ring
    have assoc : 10 * w * grainsPerUnit = 10 * (w * grainsPerUnit) := by ring
    have scale := grainsPerUnit_eq_fine
    have some := fine_pos
    omega
  · intro reached
    refine le_nearest positive ?_ ?_
    · refine (spacing_dvd_fine (quotient_lt positive few)).trans ?_
      rw [grainsPerUnit_eq_fine]
      exact ⟨w * 8796093022208, by ring⟩
    · rw [← Nat.mul_assoc]
      exact Nat.mul_le_mul_right _ reached

theorem wholePart_tenth : wholePart (tenth k) = k / 10 := by
  refine eq_of_forall_le_iff fun w => ?_
  rw [wholePart, Nat.le_div_iff_mul_le grainsPerUnit_pos, le_tenth_iff few,
    Nat.le_div_iff_mul_le (by decide), Nat.mul_comm]

theorem tenth_eq_iff (w : Nat) : tenth k = w * grainsPerUnit ↔ k = 10 * w := by
  have scale := grainsPerUnit_eq_fine
  have some := fine_pos
  constructor
  · intro same
    have enough : 10 * w ≤ k := (le_tenth_iff few w).mp (Nat.le_of_eq same.symm)
    obtain ⟨-, below⟩ := tenth_near few
    by_contra other
    have apart : (10 * w + 1) * grainsPerUnit ≤ k * grainsPerUnit :=
      Nat.mul_le_mul_right _ (by omega)
    have split : (10 * w + 1) * grainsPerUnit = 10 * (w * grainsPerUnit) + grainsPerUnit := by ring
    omega
  · rintro rfl
    have reached := (le_tenth_iff few w).mpr (Nat.le_refl _)
    refine Nat.le_antisymm ?_ reached
    refine nearest_le (by decide) ?_ (by rw [Nat.mul_assoc])
    refine (spacing_dvd_fine (quotient_lt (by decide) few)).trans ?_
    rw [scale]
    exact ⟨w * 8796093022208, by ring⟩

/-- Ten times so many tenths are rounded to their number. -/
theorem roundedPart_ten_mul_tenth : roundedPart (nearest (10 * tenth k) 1) = k := by
  obtain ⟨above, below⟩ := tenth_near few
  have short : 10 * tenth k < 16384 * grainsPerUnit := tenfold_lt (by decide) few
  obtain ⟨rounded, rounded'⟩ := nearest_one_near short
  refine roundedPart_of_near ?_ ?_
  · omega
  · omega

theorem tenth_le : tenth k ≤ 1024 * grainsPerUnit := nearest_le_limit (by decide) few

theorem ten_mul_rest_lt (less : Nat) :
    10 * nearest (tenth k - less) 1 < 16384 * grainsPerUnit := by
  have scale := grainsPerUnit_eq_fine
  have some := fine_pos
  have within := tenth_le few
  obtain ⟨rest, -⟩ := nearest_one_near (show tenth k - less < 16384 * grainsPerUnit by omega)
  omega

/-- Ten times the rest of so many tenths without the whole part is rounded to their last digit. -/
theorem roundedPart_ten_mul_rest :
    roundedPart (nearest (10 * nearest (tenth k - k / 10 * grainsPerUnit) 1) 1) = k % 10 := by
  have scale := grainsPerUnit_eq_fine
  have some := fine_pos
  have within := tenth_le few
  have digits : k * grainsPerUnit = 10 * (k / 10 * grainsPerUnit) + k % 10 * grainsPerUnit := by
    conv => lhs; rw [← Nat.div_add_mod k 10]
    ring
  obtain ⟨above, below⟩ := tenth_near few
  obtain ⟨rest, rest'⟩ := nearest_one_near
    (show tenth k - k / 10 * grainsPerUnit < 16384 * grainsPerUnit by omega)
  obtain ⟨rounded, rounded'⟩ := nearest_one_near (ten_mul_rest_lt few (k / 10 * grainsPerUnit))
  -- the three roundings together are off by 10, 160 and 16 times the unit of errors
  refine roundedPart_of_near ?_ ?_
  · omega
  · omega

end Tenth

/-! ### The rest of any number of tenths -/

theorem representable_fine {count : Nat} (short : count ≤ Nat.pow 2 53) :
    Representable (count * fine) := by
  rw [← two_pow_fineExponent]
  refine representable_mul_two_pow short ?_
  calc count * 2 ^ fineExponent ≤ Nat.pow 2 53 * 2 ^ fineExponent := Nat.mul_le_mul_right _ short
    _ = 2 ^ (fineExponent + 53) := by rw [Nat.pow_add, Nat.mul_comm]
    _ < Nat.pow 2 limitExponent := two_pow_lt (by decide)

def sixteenth : Nat := 549755813888 * fine

theorem grainsPerUnit_eq_sixteenth : grainsPerUnit = 16 * sixteenth := by
  rw [grainsPerUnit_eq_fine, sixteenth, ← Nat.mul_assoc]

/-- Beyond a quarter of the whole numbers that are held exactly, sizes are multiples of a sixteenth. -/
theorem sixteenth_dvd_tenth {k : Nat} (large : 2 ^ 48 * grainsPerUnit ≤ k * grainsPerUnit / 10) :
    sixteenth ∣ tenth k := by
  have binade : 2 ^ (fineExponent + 39 + 52) = 2 ^ 48 * grainsPerUnit := by
    rw [Nat.add_assoc, Nat.pow_add, two_pow_fineExponent, grainsPerUnit_eq_fine]
    ring
  have exactly : 2 ^ (fineExponent + 39) = sixteenth := by
    rw [Nat.pow_add, two_pow_fineExponent, sixteenth]
    ring
  rw [← exactly]
  refine Nat.dvd_trans (two_pow_dvd_spacing ?_) (spacing_dvd_nearest ..)
  rwa [binade]

/-- Below that the whole tens are not passed, and a number of tenths is rounded by very little. -/
theorem tenth_near_of_lt {k : Nat} (small : k * grainsPerUnit / 10 < 2 ^ 48 * grainsPerUnit) :
    k / 10 * grainsPerUnit ≤ tenth k ∧ 20 * tenth k ≤ 2 * (k * grainsPerUnit) + 5 * sixteenth := by
  have tens : 10 * (k / 10 * grainsPerUnit) ≤ k * grainsPerUnit := by
    rw [← Nat.mul_assoc]
    exact Nat.mul_le_mul_right _ (Nat.mul_div_le k 10)
  constructor
  · have few : k / 10 < 2 ^ 48 := by
      refine Nat.lt_of_mul_lt_mul_right (Nat.lt_of_le_of_lt ?_ small)
      rwa [Nat.le_div_iff_mul_le (by decide), Nat.mul_comm]
    have whole : Representable (k / 10 * grainsPerUnit) := by
      apply representable_whole
      exact Nat.le_trans (Nat.le_of_lt few) (by decide)
    exact le_nearest_of_multiple (by decide) whole.2 tens
  · have binade : 2 ^ (fineExponent + 38 + 53) = 2 ^ 48 * grainsPerUnit := by
      rw [Nat.add_assoc, Nat.pow_add, two_pow_fineExponent, grainsPerUnit_eq_fine]
      ring
    have exactly : 2 * 2 ^ (fineExponent + 38) = sixteenth := by
      rw [Nat.pow_add, two_pow_fineExponent, sixteenth]
      ring
    rw [← binade] at small
    have spaced := spacing_dvd_two_pow small
    have step := Nat.le_of_dvd (Nat.two_pow_pos _) spaced
    have off := two_mul_nearest_le (show 0 < 10 by decide) (k * grainsPerUnit)
    unfold tenth
    omega

/-- Behind the whole part no number of tenths has more than fifteen sixteenths. -/
theorem rest_le (k : Nat) : tenth k - wholePart (tenth k) * grainsPerUnit ≤ 15 * sixteenth := by
  have scale := grainsPerUnit_eq_sixteenth
  rcases Nat.lt_or_ge (k * grainsPerUnit / 10) (2 ^ 48 * grainsPerUnit) with small | large
  · obtain ⟨whole, near⟩ := tenth_near_of_lt small
    have reached : k / 10 ≤ wholePart (tenth k) := (Nat.le_div_iff_mul_le grainsPerUnit_pos).mpr whole
    have atLeast := Nat.mul_le_mul_right grainsPerUnit reached
    have digits : k * grainsPerUnit = 10 * (k / 10 * grainsPerUnit) + k % 10 * grainsPerUnit := by
      conv => lhs; rw [← Nat.div_add_mod k 10]
      ring
    have digit : k % 10 * grainsPerUnit ≤ 9 * grainsPerUnit :=
      Nat.mul_le_mul_right _ (Nat.le_of_lt_succ (Nat.mod_lt k (by decide)))
    omega
  · obtain ⟨count, size⟩ := sixteenth_dvd_tenth large
    have rest : tenth k - wholePart (tenth k) * grainsPerUnit = tenth k % grainsPerUnit := by
      rw [wholePart, Nat.mul_comm, Nat.mod_eq_sub]
    rw [rest, size, scale, Nat.mul_comm 16, Nat.mul_mod_mul_left, Nat.mul_comm]
    exact Nat.mul_le_mul_right _ (Nat.le_of_lt_succ (Nat.mod_lt count (by decide)))

theorem nearest_rest_le {rest : Nat} (within : rest ≤ 15 * sixteenth) :
    nearest rest 1 ≤ 15 * sixteenth := by
  refine nearest_le_of_multiple Nat.one_pos ?_ (by omega)
  rw [sixteenth, ← Nat.mul_assoc]
  exact (representable_fine (by decide)).2

theorem roundedPart_ten_mul_lt {rest : Nat} (within : rest ≤ 15 * sixteenth) :
    roundedPart (nearest (10 * nearest rest 1) 1) < 10 := by
  have once := nearest_rest_le within
  have twice : nearest (10 * nearest rest 1) 1 ≤ 150 * sixteenth := by
    refine nearest_le_of_multiple Nat.one_pos ?_ (by omega)
    rw [sixteenth, ← Nat.mul_assoc]
    exact (representable_fine (by decide)).2
  have scale := grainsPerUnit_eq_sixteenth
  have positive := grainsPerUnit_pos
  rw [roundedPart, Nat.div_lt_iff_lt_mul (by omega)]
  omega

end Quartermaster.Double

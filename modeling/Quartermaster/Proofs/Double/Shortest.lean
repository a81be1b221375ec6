import Quartermaster.Double.Shortest
import Quartermaster.Proofs.Double.Size
import Quartermaster.Proofs.Text.Numeral

/-!
The shortest decimal of a positive number. With seventeen digits the decimal grid is finer than the
interval of numbers that round to the double, so a neighbour on the grid lies in it
(`isSome_candidate?`). No candidate is below its grid's least number of that many digits, so the
decimal that is found is not zero (`coefficient_shortest_pos`).
-/

namespace Quartermaster.Double

open Text

variable {grains tall places count : Nat}

/-! ### Digits -/

theorem lt_ten_pow_length_digits (n : Nat) : n < 10 ^ (digits n).length := by
  have bound := ofDigits_lt (digits n)
  rwa [ofDigits_digits] at bound

theorem ten_pow_length_digits_le {n : Nat} (large : 10 ≤ n) :
    10 ^ ((digits n).length - 1) ≤ n := by
  obtain ⟨d, e, rest, split, nonzero⟩ := head_digits large
  have bound := ten_pow_le_ofDigits nonzero (e :: rest)
  rw [← split, ofDigits_digits] at bound
  rwa [split, List.length_cons, Nat.add_sub_cancel]

theorem coefficient_stripZeros_pos {d : Decimal} (positive : 0 < d.coefficient) :
    0 < d.stripZeros.coefficient := by
  fun_induction Decimal.stripZeros d with
  | case1 d zeros ih =>
    refine ih ?_
    show 0 < d.coefficient / 10
    omega
  | case2 => exact positive

/-! ### Neighbours on a grid -/

theorem gridStep_pos (places count : Nat) : 0 < gridStep places count :=
  Nat.mul_pos (Nat.pow_pos (by decide)) grainsPerUnit_pos

theorem grains_lt_spacing (grains : Nat) : grains < 2 ^ 53 * spacing grains := by
  have binade : grains < 2 ^ (grains.log2 + 1) := Nat.lt_log2_self
  refine Nat.lt_of_lt_of_le binade ?_
  rw [spacing, pow_two_eq, ← Nat.pow_add]
  exact Nat.pow_le_pow_right Nat.two_pos (by omega)

/-- A power of two of several digits is the least number of its binade. -/
theorem eq_of_isPowerOfTwo (large : 52 < grains.log2) (power : grains = Nat.pow 2 grains.log2) :
    grains = 2 ^ 52 * spacing grains := by
  have binade : 52 + (grains.log2 - 52) = grains.log2 := by omega
  rw [spacing, pow_two_eq, ← Nat.pow_add, binade]
  exact power

theorem isWithin_of_lt {distance reach : Nat} (near : distance < reach) :
    isWithin grains distance reach = true := by
  simp [isWithin, near]

theorem reachAbove_eq (grains : Nat) :
    reachAbove grains = 2 * (spacing grains * partsPerGrain) := Nat.mul_assoc ..

/-- Where the grid has seventeen digits the two ends together reach farther than its steps. -/
theorem four_mul_lt_reach {step : Nat} (short : 10 ^ 16 * step ≤ grains * partsPerGrain)
    (positive : 0 < step) : 4 * step < reachBelow grains + reachAbove grains := by
  rw [reachBelow, reachAbove_eq]
  split
  · rename_i power
    -- below a power of two numbers are twice as close, but it has fewer steps to its digits
    have exactly : grains * partsPerGrain = 2 ^ 52 * (spacing grains * partsPerGrain) := by
      rw [← Nat.mul_assoc, ← eq_of_isPowerOfTwo power.1 power.2]
    generalize spacing grains * partsPerGrain = reach at *
    omega
  · have bound : grains * partsPerGrain ≤ 2 ^ 53 * (spacing grains * partsPerGrain) := by
      rw [← Nat.mul_assoc]
      exact Nat.mul_le_mul_right _ (grains_lt_spacing grains).le
    generalize spacing grains * partsPerGrain = reach at *
    omega

/-- One of the neighbours on a grid is near if its steps are shorter than both reaches together. -/
theorem neighbour_near {step below above : Nat} (tall : Nat) (positive : 0 < step)
    (short : 4 * step < below + above) :
    4 * (tall - tall / step * step) < below ∨ 4 * ((tall / step + 1) * step - tall) < above := by
  have whole := Nat.div_add_mod tall step
  have rest := Nat.mod_lt tall positive
  have next : (tall / step + 1) * step = step * (tall / step) + step := by ring
  rw [next, Nat.mul_comm (tall / step)]
  omega

theorem isSome_candidate? (short : 10 ^ 16 * gridStep places count ≤ grains * partsPerGrain) :
    (candidate? grains (grains * partsPerGrain) places count).isSome := by
  have positive := gridStep_pos places count
  have near := neighbour_near (grains * partsPerGrain) positive (four_mul_lt_reach short positive)
  unfold candidate?
  extract_lets step low beneath beyond exponent isNearer
  split_ifs with lower upper
  · rfl
  · rfl
  · rcases near with close | close
    · exact absurd ⟨isWithin_of_lt close, .inl upper⟩ lower
    · exact absurd (isWithin_of_lt close) upper

theorem le_coefficient_of_candidate? {d : Decimal}
    (found : candidate? grains tall places count = some d) :
    tall / gridStep places count ≤ d.coefficient := by
  unfold candidate? at found
  extract_lets step low beneath beyond exponent isNearer at found
  split_ifs at found
  all_goals cases found
  · exact Nat.le_refl _
  · exact Nat.le_succ _

/-! ### Seventeen digits -/

/-- Eighty-three binary digits are fewer than twenty-five decimal ones, and this thirteen times. -/
theorem grainsPerUnit_le : grainsPerUnit ≤ (10 ^ 25) ^ 13 := by
  rw [grainsPerUnit_eq]
  calc 2 ^ unitExponent ≤ 2 ^ (83 * 13) := Nat.pow_le_pow_right Nat.two_pos (by decide)
    _ = (2 ^ 83) ^ 13 := Nat.pow_mul ..
    _ ≤ (10 ^ 25) ^ 13 := Nat.pow_le_pow_left (by decide) 13

theorem ten_pow_eq {n x y : Nat} (places : n = 25 * x + y) :
    Nat.pow 10 n = (10 ^ 25) ^ x * 10 ^ y := by
  rw [places, ← Nat.pow_mul, ← Nat.pow_add]
  rfl

theorem ten_pow_le_parts : grainsPerUnit * 10 ^ 16 ≤ partsPerGrain := by
  have parts : partsPerGrain = (10 ^ 25) ^ 13 * 10 ^ 16 := by
    unfold partsPerGrain
    exact ten_pow_eq (by decide)
  rw [parts]
  exact Nat.mul_le_mul_right _ grainsPerUnit_le

theorem seventeen_le_length (positive : 0 < grains) :
    17 ≤ (digits (grains * partsPerGrain / grainsPerUnit)).length := by
  have large : 10 ^ 16 ≤ grains * partsPerGrain / grainsPerUnit := by
    rw [Nat.le_div_iff_mul_le grainsPerUnit_pos, Nat.mul_comm]
    exact ten_pow_le_parts.trans (Nat.le_mul_of_pos_left _ positive)
  have bound := lt_ten_pow_length_digits (grains * partsPerGrain / grainsPerUnit)
  exact (Nat.pow_lt_pow_iff_right (by decide)).mp (Nat.lt_of_le_of_lt large bound)

theorem ten_pow_mul_gridStep_le (positive : 0 < grains) (counted : count < 17) :
    10 ^ count * gridStep (digits (grains * partsPerGrain / grainsPerUnit)).length (count + 1) ≤
      grains * partsPerGrain := by
  have enough := seventeen_le_length positive
  have large : 10 ≤ grains * partsPerGrain / grainsPerUnit := by
    by_contra small
    rw [digits, dif_pos (by omega)] at enough
    simp at enough
  have least := ten_pow_length_digits_le large
  generalize (digits (grains * partsPerGrain / grainsPerUnit)).length = places at *
  have exponents : count + (places - (count + 1)) = places - 1 := by omega
  calc 10 ^ count * gridStep places (count + 1)
      = 10 ^ (places - 1) * grainsPerUnit := by
        rw [gridStep, ← Nat.mul_assoc, ← exponents, Nat.pow_add]
        rfl
    _ ≤ grains * partsPerGrain := (Nat.le_div_iff_mul_le grainsPerUnit_pos).mp least

/-- There is a candidate of a positive number, and it is not zero. -/
theorem exists_fewestDigits? (positive : 0 < grains) :
    ∃ d, fewestDigits? grains = some d ∧ 0 < d.coefficient := by
  unfold fewestDigits?
  extract_lets tall places
  cases found : (List.range 17).findSome? fun fewer => candidate? grains tall places (fewer + 1) with
  | none =>
    have missing := List.findSome?_eq_none_iff.mp found 16 (by decide)
    have present := isSome_candidate? (ten_pow_mul_gridStep_le positive (show 16 < 17 by decide))
    rw [missing] at present
    cases present
  | some d =>
    obtain ⟨fewer, member, candidate⟩ := List.exists_of_findSome?_eq_some found
    have short := ten_pow_mul_gridStep_le positive (List.mem_range.mp member)
    have least := le_coefficient_of_candidate? candidate
    refine ⟨d, rfl, Nat.lt_of_lt_of_le (Nat.div_pos ?_ (gridStep_pos ..)) least⟩
    exact Nat.le_trans (Nat.le_mul_of_pos_left _ (Nat.pow_pos (by decide))) short

theorem coefficient_shortest_pos (positive : 0 < grains) : 0 < (shortest grains).coefficient := by
  obtain ⟨d, found, nonzero⟩ := exists_fewestDigits? positive
  rw [shortest, if_neg (Nat.ne_of_gt positive), found, Option.getD_some]
  exact coefficient_stripZeros_pos nonzero

/-- The whole part of a number of at least one is written as the numeral of one that is not zero. -/
theorem exists_wholeNumeral (large : grainsPerUnit ≤ grains) :
    ∃ n, 1 ≤ n ∧ wholeNumeral grains = natural n := by
  have whole : 1 ≤ wholePart grains := Nat.div_pos large grainsPerUnit_pos
  unfold wholeNumeral
  split
  · exact ⟨_, whole, rfl⟩
  · have positive := coefficient_shortest_pos (Nat.mul_pos whole grainsPerUnit_pos)
    exact ⟨_, Nat.mul_pos positive (Nat.pow_pos (by decide)), rfl⟩

end Quartermaster.Double

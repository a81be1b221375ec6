import Mathlib.Algebra.Order.Ring.Nat
import Mathlib.Data.Nat.Log
import Mathlib.Tactic.Ring
import Quartermaster.Double.Basic

/-!
Rounding to the nearest representable size. A rounded ratio is off by at most half the spacing of
its binade (`two_mul_nearest_le`, `le_two_mul_nearest`), does not pass a multiple of the spacing
(`nearest_le`, `le_nearest`), and is drawn up to an even multiple that is half a spacing away
(`le_nearest_of_even`). The result is representable (`representable_nearest`), and no size that is
not rounded itself is passed (`nearest_le_of_multiple`, `le_nearest_of_multiple`).
-/

namespace Quartermaster.Double

/-! ### The nearest multiple of a step -/

/-- How many steps the nearest multiple takes, where each is `width` of the ratio's top. -/
def nearestCount (top width : Nat) : Nat :=
  if 2 * (top % width) < width ∨ (2 * (top % width) = width ∧ top / width % 2 = 0) then top / width
  else top / width + 1

theorem nearestMultiple_eq (top bottom step : Nat) :
    nearestMultiple top bottom step = nearestCount top (bottom * step) * step := by
  unfold nearestMultiple nearestCount
  split <;> simp_all

section Count

variable {top width m : Nat}

theorem le_nearestCount (positive : 0 < width) (reached : width * m ≤ top) :
    m ≤ nearestCount top width := by
  have below : m ≤ top / width := (Nat.le_div_iff_mul_le positive).mpr (by rwa [Nat.mul_comm])
  unfold nearestCount
  split <;> omega

theorem nearestCount_le (positive : 0 < width) (within : top ≤ width * m) :
    nearestCount top width ≤ m := by
  have whole := Nat.div_add_mod top width
  unfold nearestCount
  split
  · exact Nat.div_le_of_le_mul within
  · rename_i far
    by_contra above
    have same : m ≤ top / width := by omega
    have step := Nat.mul_le_mul_left width same
    omega

theorem two_mul_nearestCount_le (top : Nat) (positive : 0 < width) :
    2 * (width * nearestCount top width) ≤ 2 * top + width := by
  have whole := Nat.div_add_mod top width
  unfold nearestCount
  split
  · omega
  · rename_i far
    rw [Nat.mul_succ]
    omega

theorem le_two_mul_nearestCount (top : Nat) (positive : 0 < width) :
    2 * top ≤ 2 * (width * nearestCount top width) + width := by
  have whole := Nat.div_add_mod top width
  have rest := Nat.mod_lt top positive
  unfold nearestCount
  split
  · omega
  · rw [Nat.mul_succ]
    omega

/-- A tie goes to the even count, so an even count is reached from half a step below. -/
theorem le_nearestCount_of_even (positive : 0 < width) (even : m % 2 = 0)
    (near : 2 * (width * m) ≤ 2 * top + width) : m ≤ nearestCount top width := by
  have whole := Nat.div_add_mod top width
  have rest := Nat.mod_lt top positive
  by_contra above
  unfold nearestCount at above
  split at above
  · rename_i close
    have next : top / width + 1 ≤ m := by omega
    have step := Nat.mul_le_mul_left width next
    rw [Nat.mul_succ] at step
    by_cases exactly : m = top / width + 1
    · omega
    · have later : top / width + 2 ≤ m := by omega
      have step := Nat.mul_le_mul_left width later
      have split : width * (top / width + 2) = width * (top / width) + 2 * width := by ring
      omega
  · have later : top / width + 2 ≤ m := by omega
    have step := Nat.mul_le_mul_left width later
    have split : width * (top / width + 2) = width * (top / width) + 2 * width := by ring
    omega

theorem nearestCount_mul_right (top width : Nat) {common : Nat} (positive : 0 < common) :
    nearestCount (top * common) (width * common) = nearestCount top width := by
  unfold nearestCount
  simp only [Nat.mul_mod_mul_right, Nat.mul_div_mul_right _ _ positive, ← Nat.mul_assoc,
    Nat.mul_lt_mul_right positive, Nat.mul_left_inj (Nat.ne_of_gt positive)]

end Count

/-! ### The nearest size of a ratio -/

/-- The nearest size to a ratio, in steps of the spacing that the whole part of the ratio has. -/
def nearest (top bottom : Nat) : Nat := nearestMultiple top bottom (spacing (top / bottom))

theorem two_pow_lt {exponent limit : Nat} (below : exponent < limit) :
    2 ^ exponent < Nat.pow 2 limit := Nat.pow_lt_pow_right (by decide) below

theorem spacing_pos (grains : Nat) : 0 < spacing grains := Nat.two_pow_pos _

theorem nearest_eq (top bottom : Nat) :
    nearest top bottom =
      nearestCount top (bottom * spacing (top / bottom)) * spacing (top / bottom) :=
  nearestMultiple_eq ..

section Nearest

variable {top bottom size : Nat}

theorem spacing_dvd_nearest (top bottom : Nat) : spacing (top / bottom) ∣ nearest top bottom := by
  rw [nearest_eq]
  exact Nat.dvd_mul_left ..

theorem nearest_mul_right (top bottom : Nat) {common : Nat} (positive : 0 < common) :
    nearest (top * common) (bottom * common) = nearest top bottom := by
  have whole : top * common / (bottom * common) = top / bottom := Nat.mul_div_mul_right _ _ positive
  rw [nearest_eq, nearest_eq, whole, Nat.mul_right_comm, nearestCount_mul_right _ _ positive]

variable (positive : 0 < bottom)

include positive

theorem le_nearest (multiple : spacing (top / bottom) ∣ size) (reached : bottom * size ≤ top) :
    size ≤ nearest top bottom := by
  obtain ⟨count, rfl⟩ := multiple
  have width := Nat.mul_pos positive (spacing_pos (top / bottom))
  have counted : count ≤ nearestCount top _ := le_nearestCount width (by rwa [Nat.mul_assoc])
  rw [nearest_eq, Nat.mul_comm]
  exact Nat.mul_le_mul_right _ counted

theorem nearest_le (multiple : spacing (top / bottom) ∣ size) (within : top ≤ bottom * size) :
    nearest top bottom ≤ size := by
  obtain ⟨count, rfl⟩ := multiple
  have width := Nat.mul_pos positive (spacing_pos (top / bottom))
  have counted : nearestCount top _ ≤ count := nearestCount_le width (by rwa [Nat.mul_assoc])
  rw [nearest_eq, Nat.mul_comm (spacing _)]
  exact Nat.mul_le_mul_right _ counted

theorem nearest_of_eq (multiple : spacing (top / bottom) ∣ size) (exactly : top = bottom * size) :
    nearest top bottom = size :=
  Nat.le_antisymm (nearest_le positive multiple (Nat.le_of_eq exactly))
    (le_nearest positive multiple (Nat.le_of_eq exactly.symm))

theorem le_nearest_of_even (multiple : 2 * spacing (top / bottom) ∣ size)
    (near : 2 * (bottom * size) ≤ 2 * top + bottom * spacing (top / bottom)) :
    size ≤ nearest top bottom := by
  obtain ⟨count, rfl⟩ := multiple
  have width := Nat.mul_pos positive (spacing_pos (top / bottom))
  have counted : 2 * count ≤ nearestCount top _ := le_nearestCount_of_even width (by omega) (by
    convert near using 2
    ring)
  rw [nearest_eq]
  calc 2 * spacing (top / bottom) * count = 2 * count * spacing (top / bottom) := by ring
    _ ≤ _ := Nat.mul_le_mul_right _ counted

theorem two_mul_nearest_le (top : Nat) :
    2 * (bottom * nearest top bottom) ≤ 2 * top + bottom * spacing (top / bottom) := by
  have width := Nat.mul_pos positive (spacing_pos (top / bottom))
  have off := two_mul_nearestCount_le top width
  rw [nearest_eq]
  convert off using 2
  ring

theorem le_two_mul_nearest (top : Nat) :
    2 * top ≤ 2 * (bottom * nearest top bottom) + bottom * spacing (top / bottom) := by
  have width := Nat.mul_pos positive (spacing_pos (top / bottom))
  have off := le_two_mul_nearestCount top width
  rw [nearest_eq]
  convert off using 3
  ring

end Nearest

/-! ### The spacing of a binade -/

/-- Below a power of two the spacing divides the power 53 binades lower. -/
theorem spacing_dvd_two_pow {grains exponent : Nat} (below : grains < 2 ^ (exponent + 53)) :
    spacing grains ∣ 2 ^ exponent := by
  have binade : grains.log2 < exponent + 53 := by
    by_cases none : grains = 0
    · simp [none]
    · exact (Nat.log2_lt none).mpr below
  exact Nat.pow_dvd_pow 2 (by omega)

theorem two_pow_dvd_spacing {grains exponent : Nat} (above : 2 ^ (exponent + 52) ≤ grains) :
    2 ^ exponent ∣ spacing grains := by
  have some : grains ≠ 0 := by
    have := Nat.two_pow_pos (exponent + 52)
    omega
  have binade : exponent + 52 ≤ grains.log2 := (Nat.le_log2 some).mpr above
  exact Nat.pow_dvd_pow 2 (by omega)

theorem spacing_two_pow_dvd (exponent : Nat) : spacing (2 ^ exponent) ∣ 2 ^ exponent := by
  rw [spacing, Nat.log2_two_pow]
  exact Nat.pow_dvd_pow 2 (Nat.sub_le _ _)

theorem spacing_dvd_spacing {small large : Nat} (within : small ≤ large) :
    spacing small ∣ spacing large := by
  refine Nat.pow_dvd_pow 2 (Nat.sub_le_sub_right ?_ 52)
  by_cases none : small = 0
  · simp [none]
  · have some : large ≠ 0 := by omega
    exact (Nat.le_log2 some).mpr (Nat.le_trans (Nat.log2_self_le none) within)

theorem nearest_le_of_multiple {top bottom size : Nat} (positive : 0 < bottom)
    (multiple : spacing size ∣ size) (within : top ≤ bottom * size) : nearest top bottom ≤ size :=
  nearest_le positive ((spacing_dvd_spacing (Nat.div_le_of_le_mul within)).trans multiple) within

theorem le_nearest_of_multiple {top bottom size : Nat} (positive : 0 < bottom)
    (multiple : spacing size ∣ size) (reached : bottom * size ≤ top) :
    size ≤ nearest top bottom := by
  have below : size ≤ top / bottom := (Nat.le_div_iff_mul_le positive).mpr (by rwa [Nat.mul_comm])
  by_cases none : top / bottom = 0
  · omega
  by_cases early : size < 2 ^ (top / bottom).log2
  · -- the start of the binade lies between the two, and it is a multiple of the spacing
    have start : 2 ^ (top / bottom).log2 ≤ top / bottom := Nat.log2_self_le none
    refine Nat.le_trans (Nat.le_of_lt early) (le_nearest positive ?_ ?_)
    · exact Nat.pow_dvd_pow 2 (Nat.sub_le _ _)
    · rw [Nat.mul_comm]
      exact (Nat.le_div_iff_mul_le positive).mp start
  · have some : size ≠ 0 := by
      have := Nat.two_pow_pos (top / bottom).log2
      omega
    have binade : (top / bottom).log2 ≤ size.log2 := (Nat.le_log2 some).mpr (Nat.le_of_not_lt early)
    exact le_nearest positive ((Nat.pow_dvd_pow 2 (Nat.sub_le_sub_right binade 52)).trans multiple)
      reached

/-- A number of 53 binary digits times a power of two is representable. -/
theorem representable_mul_two_pow {count exponent : Nat} (short : count ≤ Nat.pow 2 53)
    (below : count * 2 ^ exponent < Nat.pow 2 limitExponent) :
    Representable (count * 2 ^ exponent) := by
  refine ⟨below, ?_⟩
  have double : 2 ^ (exponent + 53) = Nat.pow 2 53 * 2 ^ exponent := by
    rw [Nat.pow_add, Nat.mul_comm]
  rcases Nat.lt_or_eq_of_le short with shorter | rfl
  · have inBinade : count * 2 ^ exponent < 2 ^ (exponent + 53) := by
      rw [double]
      exact Nat.mul_lt_mul_of_pos_right shorter (Nat.two_pow_pos _)
    exact Nat.dvd_trans (spacing_dvd_two_pow inBinade) (Nat.dvd_mul_left ..)
  · -- the least size of a binade, which is of one digit only
    rw [← double]
    have inBinade : 2 ^ (exponent + 53) < 2 ^ (exponent + 1 + 53) :=
      Nat.pow_lt_pow_right (by decide) (by omega)
    exact Nat.dvd_trans (spacing_dvd_two_pow inBinade) (Nat.pow_dvd_pow 2 (by omega))

theorem representable_nearest {top bottom exponent : Nat} (positive : 0 < bottom)
    (below : top / bottom < 2 ^ exponent) (fits : exponent < limitExponent) :
    Representable (nearest top bottom) := by
  let digits := (top / bottom).log2 - 52
  have inBinade : top / bottom < 2 ^ (digits + 53) :=
    Nat.lt_of_lt_of_le Nat.lt_log2_self (Nat.pow_le_pow_right (by decide) (by omega))
  have short : nearestCount top (bottom * 2 ^ digits) ≤ Nat.pow 2 53 := by
    refine nearestCount_le (Nat.mul_pos positive (Nat.two_pow_pos _)) ?_
    have within := (Nat.div_lt_iff_lt_mul positive).mp inBinade
    calc top ≤ 2 ^ (digits + 53) * bottom := Nat.le_of_lt within
      _ = bottom * 2 ^ digits * Nat.pow 2 53 := by
        rw [Nat.pow_add, Nat.mul_comm, Nat.mul_assoc]
  have binade : digits + 53 < limitExponent := by
    have large : 53 < limitExponent := by decide
    by_cases none : top / bottom = 0
    · have zero : digits = 0 := by simp [digits, none]
      omega
    · have log : (top / bottom).log2 < exponent := (Nat.log2_lt none).mpr below
      omega
  rw [nearest_eq]
  refine representable_mul_two_pow short ?_
  calc nearestCount top (bottom * 2 ^ digits) * 2 ^ digits
      ≤ Nat.pow 2 53 * 2 ^ digits := Nat.mul_le_mul_right _ short
    _ = 2 ^ (digits + 53) := by rw [Nat.pow_add, Nat.mul_comm]
    _ < Nat.pow 2 limitExponent := two_pow_lt binade

end Quartermaster.Double

/-!
Double precision numbers, exactly. The size of a finite number is a whole number of grains, the
grain being `2 ^ -1074`, the smallest positive double. A size is representable when its binary
form has at most 53 significant bits and it is below `2 ^ 1024`.

Every operation computes an exact ratio and rounds once, to the nearest representable size,
halfway cases to the one with an even significand (`Double.ofRatio`).
-/

namespace Quartermaster

/-- The number one is two to this power in grains. -/
def unitExponent : Nat := 1074

def grainsPerUnit : Nat := Nat.pow 2 unitExponent

/-- Sizes in grains stay below two to this power. -/
def limitExponent : Nat := 1024 + unitExponent

/-- Distance of neighbouring representable sizes in the binade of `grains`. -/
def spacing (grains : Nat) : Nat := Nat.pow 2 (grains.log2 - 52)

/-- A size of at most 53 significant bits below the overflow limit. -/
def Representable (grains : Nat) : Prop :=
  grains < Nat.pow 2 limitExponent ∧ spacing grains ∣ grains

instance (grains : Nat) : Decidable (Representable grains) :=
  inferInstanceAs (Decidable (_ ∧ _))

inductive Double
  | nan
  | infinite (negative : Bool)
  | finite (negative : Bool) (grains : Nat) (representable : Representable grains)
  deriving DecidableEq

namespace Double

theorem powerOfTwo_pos (exponent : Nat) : 0 < Nat.pow 2 exponent := Nat.two_pow_pos exponent

theorem grainsPerUnit_pos : 0 < grainsPerUnit := by
  unfold grainsPerUnit
  exact powerOfTwo_pos unitExponent

theorem representable_zero : Representable 0 :=
  ⟨powerOfTwo_pos limitExponent, Nat.dvd_zero _⟩

def zero : Double := .finite false 0 representable_zero

instance : Inhabited Double := ⟨zero⟩

/-- The finite number of a size, or the infinity when the size is not representable. -/
def ofGrains (negative : Bool) (grains : Nat) : Double :=
  if h : Representable grains then .finite negative grains h else .infinite negative

/--
The multiple of `step` nearest to `top / bottom`, halfway cases to the even multiple.
-/
def nearestMultiple (top bottom step : Nat) : Nat :=
  let width := bottom * step
  let below := top / width
  let twice := 2 * (top % width)
  if twice < width ∨ (twice = width ∧ below % 2 = 0) then below * step
  else (below + 1) * step

/-- The double nearest to `± top / bottom`, counted in grains. -/
def ofGrainRatio (negative : Bool) (top bottom : Nat) : Double :=
  ofGrains negative (nearestMultiple top bottom (spacing (top / bottom)))

def ofRatio (negative : Bool) (top bottom : Nat) : Double :=
  ofGrainRatio negative (top * grainsPerUnit) bottom

def ofInt (i : Int) : Double :=
  ofRatio (i < 0) i.natAbs 1

def ofNat (n : Nat) : Double := ofRatio false n 1

def isFinite : Double → Bool
  | .finite .. => true
  | _ => false

def finite? (x : Double) : Option Double :=
  if x.isFinite then some x else none

/-- Either zero. -/
def isZero : Double → Bool
  | .finite _ grains _ => grains = 0
  | _ => false

/-- Carries a minus sign; so does the negative zero. -/
def isNegative : Double → Bool
  | .nan => false
  | .infinite negative => negative
  | .finite negative _ _ => negative

def signedGrains (negative : Bool) (grains : Nat) : Int :=
  if negative then -grains else grains

def neg : Double → Double
  | .nan => .nan
  | .infinite negative => .infinite (!negative)
  | .finite negative grains h => .finite (!negative) grains h

/-! ### Order -/

/-- Numeric `x < y`; both zeros are equal and nothing compares with `nan`. -/
def lt : Double → Double → Bool
  | .nan, _ => false
  | _, .nan => false
  | .infinite negative, .infinite negative' => negative && !negative'
  | .infinite negative, .finite .. => negative
  | .finite .., .infinite negative => !negative
  | .finite negative grains _, .finite negative' grains' _ =>
    signedGrains negative grains < signedGrains negative' grains'

def le : Double → Double → Bool
  | .nan, _ => false
  | _, .nan => false
  | x, y => !lt y x

def eqv (x y : Double) : Bool := le x y && le y x

/-! ### Arithmetic -/

/-- The product, rounded once. -/
def mul : Double → Double → Double
  | .finite negative grains _, .finite negative' grains' _ =>
    ofGrainRatio (negative != negative') (grains * grains') grainsPerUnit
  | .nan, _ => .nan
  | _, .nan => .nan
  | .infinite negative, .finite negative' grains _ =>
    if grains = 0 then .nan else .infinite (negative != negative')
  | .finite negative grains _, .infinite negative' =>
    if grains = 0 then .nan else .infinite (negative != negative')
  | .infinite negative, .infinite negative' => .infinite (negative != negative')

def div : Double → Double → Double
  | .finite negative grains _, .finite negative' grains' _ =>
    if grains' = 0 then
      if grains = 0 then .nan else .infinite (negative != negative')
    else ofRatio (negative != negative') grains grains'
  | .nan, _ => .nan
  | _, .nan => .nan
  | .infinite negative, .finite negative' _ _ => .infinite (negative != negative')
  | .finite negative _ _, .infinite negative' => .finite (negative != negative') 0 representable_zero
  | .infinite _, .infinite _ => .nan

/-- The difference, rounded once; equal numbers give the positive zero. -/
def sub : Double → Double → Double
  | .finite negative grains _, .finite negative' grains' _ =>
    let difference := signedGrains negative grains - signedGrains negative' grains'
    if difference = 0 then
      .finite (negative && !negative' && grains = 0) 0 representable_zero
    else ofGrainRatio (difference < 0) difference.natAbs 1
  | .nan, _ => .nan
  | _, .nan => .nan
  | .infinite negative, .finite .. => .infinite negative
  | .finite .., .infinite negative => .infinite (!negative)
  | .infinite negative, .infinite negative' =>
    if negative = negative' then .nan else .infinite negative

/-! ### Whole numbers -/

def wholePart (grains : Nat) : Nat := grains / grainsPerUnit

/-- The whole number nearest to a size in grains, halves upward. -/
def roundedPart (grains : Nat) : Nat := (2 * grains + grainsPerUnit) / (2 * grainsPerUnit)

def clamp (low high i : Int) : Int := max low (min high i)

/--
The nearest integer, halves away from zero, held within bounds; zero for `nan`.
-/
def roundWithin (low high : Int) : Double → Int
  | .nan => 0
  | .infinite negative => if negative then low else high
  | .finite negative grains _ => clamp low high (signedGrains negative (roundedPart grains))

def roundInt64 (x : Double) : Int64 :=
  Int64.ofInt (roundWithin Int64.minValue.toInt Int64.maxValue.toInt x)

/-- The nearest whole number as a double, halves away from zero. -/
def round : Double → Double
  | .finite negative grains _ => ofRatio negative (roundedPart grains) 1
  | x => x

def trunc : Double → Double
  | .finite negative grains _ => ofRatio negative (wholePart grains) 1
  | x => x

end Double

end Quartermaster

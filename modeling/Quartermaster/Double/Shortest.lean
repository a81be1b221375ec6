import Quartermaster.Double.Basic
import Quartermaster.Text.Decimal

/-!
The shortest decimal that reads back as a given double: of all decimals nearer to it than to any
other double, those with the fewest digits, and of these the nearest, a tie going to the even one.
-/

namespace Quartermaster.Double

open Quartermaster.Text

structure Decimal where
  coefficient : Nat
  exponent : Int
  deriving DecidableEq, Repr

def Decimal.stripZeros (d : Decimal) : Decimal :=
  if h : d.coefficient ≠ 0 ∧ d.coefficient % 10 = 0 then
    Decimal.stripZeros ⟨d.coefficient / 10, d.exponent + 1⟩
  else d
termination_by d.coefficient
decreasing_by omega

/-- Decimal places that make the least positive double exceed the grid of seventeen digits. -/
def extraPlaces : Nat := 341

/-- Sizes are compared with grids in parts of a grain, so many of which make one. -/
def partsPerGrain : Nat := Nat.pow 10 extraPlaces

/-- Distance of neighbours on the grid of `count` digits, of `places` for the whole part. -/
def gridStep (places count : Nat) : Nat := Nat.pow 10 (places - count) * grainsPerUnit

/-- Four times the distance up to which numbers above a size round to it. -/
def reachAbove (grains : Nat) : Nat := 2 * spacing grains * partsPerGrain

def reachBelow (grains : Nat) : Nat :=
  if 52 < grains.log2 ∧ grains = Nat.pow 2 grains.log2 then spacing grains * partsPerGrain
  else reachAbove grains

/-- A number that far from a size rounds to it; at the very end if the significand is even. -/
def isWithin (grains distance reach : Nat) : Bool :=
  distance < reach || (distance = reach && grains / spacing grains % 2 = 0)

/--
The candidate with a given number of digits. `tall` is the size in parts of a grain and `places`
the number of digits of its whole part. Of the two neighbours on the decimal grid those count that
round to the double, and of these the nearer.
-/
def candidate? (grains tall places count : Nat) : Option Decimal :=
  let step := gridStep places count
  let low := tall / step
  let beneath := 4 * (tall - low * step)
  let beyond := 4 * ((low + 1) * step - tall)
  let exponent : Int := (places : Int) - count - extraPlaces
  let isNearer := beneath < beyond ∨ (beneath = beyond ∧ low % 2 = 0)
  if isWithin grains beneath (reachBelow grains) ∧
      (¬isWithin grains beyond (reachAbove grains) ∨ isNearer) then some ⟨low, exponent⟩
  else if isWithin grains beyond (reachAbove grains) then some ⟨low + 1, exponent⟩
  else none

/-- The candidate with the fewest digits. Seventeen always suffice. -/
def fewestDigits? (grains : Nat) : Option Decimal :=
  let tall := grains * partsPerGrain
  let places := (digits (tall / grainsPerUnit)).length
  (List.range 17).findSome? fun fewer => candidate? grains tall places (fewer + 1)

def shortest (grains : Nat) : Decimal :=
  if grains = 0 then ⟨0, 0⟩ else ((fewestDigits? grains).getD ⟨0, 0⟩).stripZeros

/--
The whole part of a number in full: exact below `2 ^ 53`, and from there on the shortest digits
that read back, filled up with zeros.
-/
def wholeNumeral (grains : Nat) : List Char :=
  if wholePart grains < Nat.pow 2 53 then natural (wholePart grains)
  else
    let d := shortest (wholePart grains * grainsPerUnit)
    natural (d.coefficient * Nat.pow 10 d.exponent.toNat)

end Quartermaster.Double

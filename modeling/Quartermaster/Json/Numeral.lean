import Quartermaster.Double.Reading
import Quartermaster.Double.Shortest

/-!
Number literals of JSON. A literal is kept as written; what it denotes is decided when a value is
asked of it: a 64-bit integer if it has neither fraction nor exponent and fits, else a double.
-/

namespace Quartermaster.Json

open Quartermaster.Text

structure Numeral where
  negative : Bool
  whole : Nat
  fraction : List Digit
  exponent : Option Int
  deriving DecidableEq, Repr

namespace Numeral

def ofInt (i : Int) : Numeral := ⟨i < 0, i.natAbs, [], none⟩

def text (n : Numeral) : List Char :=
  (if n.negative then ['-'] else []) ++ natural n.whole ++
    (if n.fraction = [] then [] else '.' :: n.fraction.map digitChar) ++
    match n.exponent with
    | none => []
    | some e => 'e' :: (if e < 0 then '-' else '+') :: natural e.natAbs

/-- The integer that a literal without fraction and exponent denotes; `-0` is not one. -/
def plainInteger? (n : Numeral) : Option Int :=
  if n.fraction = [] ∧ n.exponent = none ∧ ¬(n.negative ∧ n.whole = 0) then
    some (if n.negative then -n.whole else n.whole)
  else none

/-- The integer that a literal denotes, signed or unsigned of 64 bits. -/
def integer? (n : Numeral) : Option Int :=
  n.plainInteger?.filter fun i => Int64.minValue.toInt ≤ i ∧ i < UInt64.size

/-- Cuts digits from the end until what is left fits 64 bits; counts the digits cut. -/
def cutTo64 (n : Nat) : Nat × Nat :=
  if n < UInt64.size then (n, 0) else ((cutTo64 (n / 10)).1, (cutTo64 (n / 10)).2 + 1)
termination_by n
decreasing_by all_goals simp only [UInt64.size] at *; omega

/-- Appends fraction digits while the significand fits 64 bits; counts the digits taken. -/
def takeFraction (significand : Nat) : List Digit → Nat × Nat
  | [] => (significand, 0)
  | d :: ds =>
    let longer := 10 * significand + d.val
    if longer < UInt64.size then
      ((takeFraction longer ds).1, (takeFraction longer ds).2 + 1)
    else (significand, 0)

def largestPower : Nat := 308

def powerOfTen (n : Nat) : Double := .ofNat (Nat.pow 10 n)

/-- Divides by `10 ^ places`, by at most `10 ^ 308` at a time. -/
def scaleDown (x : Double) (places : Nat) : Double :=
  if places ≤ largestPower then x.div (powerOfTen places)
  else if x.isZero then x
  else scaleDown (x.div (powerOfTen largestPower)) (places - largestPower)
termination_by places
decreasing_by simp only [largestPower] at *; omega

/--
Scales by a power of ten in steps that a double can hold, each rounded on its own; `none` when
the number leaves the range of doubles.
-/
def scale? (x : Double) (exponent : Int) : Option Double :=
  if exponent < 0 then some (scaleDown x exponent.natAbs)
  else if exponent ≤ largestPower then (x.mul (powerOfTen exponent.natAbs)).finite?
  else if x.isZero then some x
  else none

/--
The double that a literal denotes. The significand is cut to what fits 64 bits and then scaled;
`none` if the number is too large for a double.
-/
def real? (n : Numeral) : Option Double :=
  let (kept, cut) := cutTo64 n.whole
  let (significand, taken) := takeFraction kept n.fraction
  let power := n.exponent.getD 0
  let size : Option Double :=
    if power.natAbs < Nat.pow 2 31 then
      scale? (.ofNat significand) ((cut : Int) - taken + power)
    else if significand ≠ 0 ∧ power > 0 then none
    else some .zero
  size.map fun x => if n.negative then x.neg else x

/--
The literal of a double, from its shortest decimal: positional from `1e-5` up to `1e16`, with one
digit behind the point at least, and scientific outside.
-/
def ofDecimal (negative : Bool) (d : Double.Decimal) : Numeral :=
  let ds := digits d.coefficient
  let point : Int := ds.length + d.exponent
  if 0 ≤ d.exponent ∧ point ≤ 16 then
    ⟨negative, d.coefficient * Nat.pow 10 d.exponent.toNat, [Digit.zero], none⟩
  else if 0 < point ∧ point ≤ 16 then
    ⟨negative, ofDigits (ds.take point.toNat), ds.drop point.toNat, none⟩
  else if -5 < point ∧ point ≤ 0 then
    ⟨negative, 0, List.replicate point.natAbs Digit.zero ++ ds, none⟩
  else
    ⟨negative, ofDigits (ds.take 1), ds.drop 1, some (point - 1)⟩

def ofDouble? : Double → Option Numeral
  | .finite negative grains _ => some (ofDecimal negative (Double.shortest grains))
  | _ => none

end Numeral

end Quartermaster.Json

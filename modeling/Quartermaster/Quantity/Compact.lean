import Quartermaster.Double.Shortest
import Quartermaster.Locale

/-!
Numbers named by their magnitude, such as `1.2 thousand`: one decimal of the number of thousands,
millions and so on, and a marker in front if that is not the number itself.
-/

namespace Quartermaster.Quantity

open Quartermaster.Text

inductive Magnitude
  | thousand
  | million
  | billion
  | trillion
  deriving DecidableEq, Repr

namespace Magnitude

def size : Magnitude → Nat
  | .thousand => 1000
  | .million => 1000000
  | .billion => 1000000000
  | .trillion => 1000000000000

def next? : Magnitude → Option Magnitude
  | .thousand => some .million
  | .million => some .billion
  | .billion => some .trillion
  | .trillion => none

/-- The word for a magnitude, which in Spanish depends on whether there is exactly one of it. -/
def word : Locale → Magnitude → Bool → String
  | .english, .thousand, _ => "thousand"
  | .english, .million, _ => "million"
  | .english, .billion, _ => "billion"
  | .english, .trillion, _ => "trillion"
  | .spanish, .thousand, _ => "mil"
  | .spanish, .million, true => "millón"
  | .spanish, .million, false => "millones"
  | .spanish, .billion, _ => "mil millones"
  | .spanish, .trillion, true => "billón"
  | .spanish, .trillion, false => "billones"

/-- The largest magnitude that is not above a number of at least a thousand. -/
def ofDouble (x : Double) : Magnitude :=
  let reaches (magnitude : Magnitude) : Bool := (Double.ofNat magnitude.size).le x
  if reaches .trillion then .trillion
  else if reaches .billion then .billion
  else if reaches .million then .million
  else .thousand

end Magnitude

def ten : Double := .ofNat 10

def toTenths (x : Double) : Double := (x.mul ten).round.div ten

def mantissa (x : Double) (magnitude : Magnitude) : Double :=
  toTenths (x.div (.ofNat magnitude.size))

/--
The magnitude by which a number is named: the largest that is not above it, or the next one if the
number rounds to a thousand of that.
-/
def magnitudeOf (x : Double) : Magnitude :=
  let magnitude := Magnitude.ofDouble x
  if (Double.ofNat 1000).le (mantissa x magnitude) then magnitude.next?.getD magnitude
  else magnitude

/-- Integers of 128 bits are below this one and not below its opposite. -/
def wideLimit : Int := Nat.pow 2 127

def scaledByTen (x : Double) : Int :=
  (x.mul ten).roundWithin (-wideLimit) (wideLimit - 1)

/--
Whether a name states another number than the one that is named, both compared in tenths. What
does not fit 128 bits when it is written out counts as another number.
-/
def isApproximate (x : Double) (magnitude : Magnitude) : Bool :=
  let expanded := scaledByTen (mantissa x magnitude) * magnitude.size
  ¬(-wideLimit ≤ expanded ∧ expanded < wideLimit) || scaledByTen x ≠ expanded

def wholeText : Double → List Char
  | .finite _ grains _ => Double.wholeNumeral grains
  | _ => []

/-- A number with at most one decimal, its digits not grouped. -/
def oneDecimal (locale : Locale) (x : Double) : List Char :=
  let tenths := ((x.sub x.trunc).mul ten).roundInt64.toInt
  if tenths = 0 then wholeText x else wholeText x ++ locale.decimalMark :: integer tenths

def approximationMarker : String := "≈ "

/-- The name of a number; below a thousand, and when it is not finite, it has none. -/
def compact (locale : Locale) (x : Double) : String :=
  if !x.isFinite || x.lt (.ofNat 1000) then ""
  else
    let magnitude := magnitudeOf x
    let count := mantissa x magnitude
    let word := Magnitude.word locale magnitude (count.eqv (.ofNat 1))
    let name := String.ofList (oneDecimal locale count) ++ " " ++ word
    if isApproximate x magnitude then approximationMarker ++ name else name

end Quartermaster.Quantity

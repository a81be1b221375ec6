import Quartermaster.Double.Basic
import Quartermaster.Text.Decimal

/-!
Reading doubles from decimal text. The written decimal is taken exactly and rounded once.
-/

namespace Quartermaster.Double

open Quartermaster.Text

/--
The double nearest to `± n * 10 ^ exponent`, where `n` is the number of some digits. A decimal of
more than 310 places before the point is beyond the largest double, and one that starts after the
330th place behind the point is below half the least positive one, so neither is computed in full.
-/
def ofDecimal (negative : Bool) (ds : List Digit) (exponent : Int) : Double :=
  let significant := ds.dropWhile (· = Digit.zero)
  let magnitude := (significant.length : Int) + exponent
  if significant = [] then .finite negative 0 representable_zero
  else if magnitude > 310 then .infinite negative
  else if magnitude < -330 then .finite negative 0 representable_zero
  else if exponent < 0 then ofRatio negative (ofDigits significant) (Nat.pow 10 exponent.natAbs)
  else ofRatio negative (ofDigits significant * Nat.pow 10 exponent.natAbs) 1

/-- An exponent in front of a text: a sign is optional, at least one digit is not. -/
def readExponent? : List Char → Option (Int × List Char)
  | '-' :: rest => unsigned rest |>.map fun (n, rest) => (-(n : Int), rest)
  | '+' :: rest => unsigned rest |>.map fun (n, rest) => ((n : Int), rest)
  | text => unsigned text |>.map fun (n, rest) => ((n : Int), rest)
where
  unsigned (text : List Char) : Option (Nat × List Char) :=
    match spanDigits text with
    | ([], _) => none
    | (ds, rest) => some (ofDigits ds, rest)

/-- The fraction digits in front of a text and what follows; none without a point. -/
def readFraction : List Char → List Digit × List Char
  | '.' :: rest => spanDigits rest
  | text => ([], text)

/--
A number without sign: digits with an optional point, at least one digit on either side of it,
and an optional exponent.
-/
def readMagnitude? (negative : Bool) (text : List Char) : Option Double :=
  let (whole, afterWhole) := spanDigits text
  let (fraction, afterFraction) := readFraction afterWhole
  if whole = [] ∧ fraction = [] then none
  else
    let scaled (exponent : Int) : Double :=
      ofDecimal negative (whole ++ fraction) (exponent - fraction.length)
    match afterFraction with
    | [] => some (scaled 0)
    | mark :: rest =>
      if mark = 'e' ∨ mark = 'E' then
        match readExponent? rest with
        | some (exponent, []) => some (scaled exponent)
        | _ => none
      else none

/-- The words for the numbers that have no digits, in any case. -/
def readWord? (negative : Bool) (text : List Char) : Option Double :=
  match String.ofList (text.map Char.toLower) with
  | "inf" => some (.infinite negative)
  | "infinity" => some (.infinite negative)
  | "nan" => some .nan
  | _ => none

def read? : List Char → Option Double
  | '-' :: rest => readMagnitude? true rest <|> readWord? true rest
  | '+' :: rest => readMagnitude? false rest <|> readWord? false rest
  | text => readMagnitude? false text <|> readWord? false text

/-- The parts in front of a list, the longest first, without the empty one. -/
def frontsFromLongest (xs : List α) : List (List α) :=
  (List.range xs.length).reverse.map fun missing => xs.take (missing + 1)

/-- The longest part in front of a text that reads as a finite double. -/
def readFront? (text : List Char) : Option Double :=
  (frontsFromLongest text).findSome? fun front =>
    (read? front).filter isFinite

end Quartermaster.Double

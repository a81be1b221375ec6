import Quartermaster.Double.Basic
import Quartermaster.Locale
import Quartermaster.Text.Decimal

/-!
Numbers rounded to integers and written with marks between groups of three digits.
-/

namespace Quartermaster.Quantity

/--
Digits with a mark before every group of three, counted from the right; a leading group has no
mark in front of it.
-/
def groupDigits (mark : Char) (numeral : List Char) : List Char :=
  (spread numeral.reverse).reverse
where
  spread : List Char → List Char
    | a :: b :: c :: d :: rest => a :: b :: c :: mark :: spread (d :: rest)
    | rest => rest

def groupInteger (mark : Char) (i : Int) : List Char :=
  (if i < 0 then ['-'] else []) ++ groupDigits mark (Text.natural i.natAbs)

/-- Spanish groups the digits of numbers from this size on. -/
def ungroupedBelow : Int64 := 10000

inductive GroupingError
  /-- The size of the number is no integer of 64 bits. -/
  | sizeOverflow
  deriving DecidableEq, Repr

def GroupingError.message : GroupingError → String
  | .sizeOverflow => "the size of the number is no integer of 64 bits"

/-- The size of an integer. The least integer has none of 64 bits. -/
def size (word : Int64) : Except GroupingError Int64 :=
  if word = Int64.minValue then .error .sizeOverflow else .ok word.abs

/-- Whether an integer is written without marks. English never looks at its size. -/
def isUngrouped (locale : Locale) (word : Int64) : Except GroupingError Bool :=
  match locale with
  | .english => .ok false
  | .spanish => (size word).map fun size => size < ungroupedBelow

/-- A number rounded to an integer of 64 bits, with marks between its thousands. -/
def grouped (locale : Locale) (x : Double) : Except GroupingError String :=
  let rounded := x.roundInt64
  (isUngrouped locale rounded).map fun ungrouped =>
    String.ofList <|
      if ungrouped then Text.integer rounded.toInt
      else groupInteger locale.groupMark rounded.toInt

end Quartermaster.Quantity

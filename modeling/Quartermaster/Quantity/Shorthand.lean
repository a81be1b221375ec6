import Quartermaster.Double.Reading
import Quartermaster.Text.Blank
import Quartermaster.Text.Case

/-!
Volumes in shorthand, such as `60k` or `1.5m`. Commas and case do not matter, and what follows the
longest number in front of a text without a suffix is ignored.
-/

namespace Quartermaster.Quantity

open Quartermaster.Text

inductive Suffix
  | thousand
  | million
  | billion
  deriving DecidableEq, Repr

namespace Suffix

def factor : Suffix → Nat
  | .thousand => 1000
  | .million => 1000000
  | .billion => 1000000000

def ofChar? : Char → Option Suffix
  | 'k' => some .thousand
  | 'm' => some .million
  | 'b' => some .billion
  | _ => none

end Suffix

/-- The text that is read: without blanks around, in lower case and without commas. -/
def normalize (input : List Char) : List Char :=
  (lower (trim input)).filter (· ≠ ',')

def isPlainNumeral (text : List Char) : Bool :=
  !text.isEmpty && text.all fun c => c.isDigit || c = '.'

/--
The plain numeral in front of a suffix and the suffix; blanks may stand between the two.
-/
def splitSuffix? (text : List Char) : Option (List Char × Suffix) := do
  let suffix ← Suffix.ofChar? (← text.getLast?)
  let numeral := trimEnd text.dropLast
  if isPlainNumeral numeral then return (numeral, suffix) else none

/--
The volume that an input states, rounded to an integer of 64 bits, halves away from zero; `none` if
it does not start with a number.
-/
def ofShorthand? (input : String) : Option Int64 :=
  let text := normalize input.toList
  match splitSuffix? text with
  | some (numeral, suffix) =>
    (Double.readFront? numeral).map fun x => (x.mul (.ofNat suffix.factor)).roundInt64
  | none => (Double.readFront? text).map Double.roundInt64

/-- The volume of a field that may have been left out, which is the same as left empty. -/
def ofField? (input : Option String) : Option Int64 := ofShorthand? (input.getD "")

end Quartermaster.Quantity

import Quartermaster.Proofs.Text.Numeral

/-!
Objects as scripts know them: their members stand in the order in which they were made, but are
listed with those first whose names are indices of arrays, in ascending order.
-/

namespace Quartermaster

/-- The index of an array that a name is: the numeral of a number below 2³² - 1. -/
def arrayIndex? (name : String) : Option Nat := do
  let index := Text.ofDigits (← Text.allDigits? name.toList)
  if name.toList = Text.natural index ∧ index < 4294967295 then some index else none

/-- A numeral is an index if its number is one; those of negative numbers begin with a sign. -/
theorem arrayIndex?_integer (i : Int) :
    arrayIndex? (String.ofList (Text.integer i)) =
      if 0 ≤ i ∧ i < 4294967295 then some i.toNat else none := by
  by_cases negative : i < 0
  · have minus : Text.integer i = '-' :: Text.natural i.natAbs := if_pos negative
    rw [if_neg (by omega), minus]
    simp [arrayIndex?, Text.allDigits?, Text.spanDigits, Text.charDigit?]
  · have plain : Text.integer i = Text.natural i.toNat := by
      rw [Text.integer, if_neg negative]
      congr 1
      omega
    have notNegative : 0 ≤ i := by omega
    simp [arrayIndex?, plain, Text.allDigits?_natural, Text.ofDigits_digits, notNegative]

/-- The members of an object in the order in which they were made. -/
abbrev Members (α : Type) := List (String × α)

namespace Members

variable {α : Type}

/-- Gives the member of a name another value, or makes it as the last one. -/
def change (name : String) (value : Option α → α) : Members α → Members α
  | [] => [(name, value none)]
  | (other, held) :: rest =>
    if other = name then (other, value (some held)) :: rest
    else (other, held) :: change name value rest

def indexed (members : Members α) : List (Nat × α) :=
  members.filterMap fun (name, value) => (arrayIndex? name).map (·, value)

def named (members : Members α) : Members α :=
  members.filter fun (name, _) => (arrayIndex? name).isNone

def sort (indexed : List (Nat × α)) : List (Nat × α) :=
  indexed.mergeSort fun first second => first.1 ≤ second.1

/--
The values of an object as it lists them: those under indices in ascending order, then the others
in the order in which they were made.
-/
def values (members : Members α) : List α :=
  (sort members.indexed).map (·.2) ++ members.named.map (·.2)

theorem perm_sort (indexed : List (Nat × α)) : (sort indexed).Perm indexed :=
  List.mergeSort_perm indexed _

theorem pairwise_sort (indexed : List (Nat × α)) :
    (sort indexed).Pairwise fun first second => first.1 ≤ second.1 := by
  have sorted : (sort indexed).Pairwise fun first second => decide (first.1 ≤ second.1) :=
    List.pairwise_mergeSort (by grind) (by grind) indexed
  simpa using sorted

end Members

end Quartermaster

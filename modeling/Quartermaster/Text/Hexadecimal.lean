/-!
Hexadecimal digits and numbers in them.
-/

namespace Quartermaster.Text

def hexValue? (c : Char) : Option Nat :=
  let code := c.toNat
  if 48 ≤ code ∧ code < 58 then some (code - 48)
  else if 97 ≤ code ∧ code < 103 then some (code - 87)
  else if 65 ≤ code ∧ code < 71 then some (code - 55)
  else none

/-- A number to a base of at most 16. -/
def readBase? (base : Nat) (text : List Char) : Option Nat :=
  text.foldlM (fun value c => do
    let d ← hexValue? c
    if d < base then some (base * value + d) else none) 0

end Quartermaster.Text

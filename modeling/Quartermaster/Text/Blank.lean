/-!
Blank characters and trimming. A text is handled as its list of characters.
-/

namespace Quartermaster.Text

/-- The characters with the Unicode property `White_Space`. -/
def isBlank (c : Char) : Bool :=
  let code := c.toNat
  (0x09 ≤ code && code ≤ 0x0D) || code == 0x20 || code == 0x85 || code == 0xA0 ||
    code == 0x1680 || (0x2000 ≤ code && code ≤ 0x200A) || code == 0x2028 ||
    code == 0x2029 || code == 0x202F || code == 0x205F || code == 0x3000

def dropEndWhile (p : α → Bool) (xs : List α) : List α :=
  (xs.reverse.dropWhile p).reverse

def trimStart (text : List Char) : List Char :=
  text.dropWhile isBlank

def trimEnd (text : List Char) : List Char :=
  dropEndWhile isBlank text

def trim (text : List Char) : List Char :=
  trimEnd (trimStart text)

theorem dropEndWhile_concat_of_pos (p : α → Bool) (xs : List α) (x : α)
    (holds : p x = true) : dropEndWhile p (xs ++ [x]) = dropEndWhile p xs := by
  simp [dropEndWhile, holds]

theorem dropEndWhile_concat_of_neg (p : α → Bool) (xs : List α) (x : α)
    (fails : p x = false) : dropEndWhile p (xs ++ [x]) = xs ++ [x] := by
  simp [dropEndWhile, fails]

end Quartermaster.Text

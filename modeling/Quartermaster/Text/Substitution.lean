/-!
Replacing every occurrence of a text. Occurrences are looked for from left to right, and what was
put in is not looked at again.
-/

namespace Quartermaster.Text

/-- Replaces every occurrence of `mark`; an empty mark occurs nowhere. -/
def substitute (mark replacement : List Char) (text : List Char) : List Char :=
  go 0 text
where
  /-- Goes on behind so many characters that belong to an occurrence. -/
  go : Nat → List Char → List Char
    | _, [] => []
    | skipped + 1, _ :: rest => go skipped rest
    | 0, c :: rest =>
      if mark ≠ [] ∧ mark.isPrefixOf (c :: rest) then
        replacement ++ go (mark.length - 1) rest
      else c :: go 0 rest

end Quartermaster.Text

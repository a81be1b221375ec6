import Quartermaster.Text.CombiningClass
import Quartermaster.Text.Composition

/-!
The composed normal form of texts, in which texts that look the same are the same. A text is taken
apart into letters and marks, the marks behind a letter are put in the order of their classes, and
then each letter takes up the marks that it has composites with.
-/

namespace Quartermaster.Text

/-- How often a first part can be a composite again. -/
def compositionDepth : Nat := 4

def decomposeWithin : Nat → Char → List Char
  | 0, c => [c]
  | depth + 1, c =>
    match parts? c with
    | some parts => parts.flatMap (decomposeWithin depth)
    | none => [c]

def decompose (text : List Char) : List Char := text.flatMap (decomposeWithin compositionDepth)

/-- Puts a character in front of a text with its marks in order: a mark goes behind the marks of
lower classes. -/
def placeMark (c : Char) : List Char → List Char
  | [] => [c]
  | other :: rest =>
    if 0 < combiningClass other ∧ combiningClass other < combiningClass c then
      other :: placeMark c rest
    else c :: other :: rest

def orderMarks (text : List Char) : List Char := text.foldr placeMark []

/-- Nothing between a letter and a character keeps them from being composed. -/
def reaches (between : List Char) (c : Char) : Bool :=
  match between.getLast? with
  | none => true
  | some last => combiningClass last < combiningClass c

/-- Composes a letter with what follows it; between them stand the marks it has not taken up. -/
def composeFrom (letter : Char) (between : List Char) : List Char → List Char
  | [] => letter :: between
  | c :: rest =>
    match if reaches between c then compositeOf? letter c else none with
    | some composite => composeFrom composite between rest
    | none =>
      if combiningClass c = 0 then letter :: between ++ composeFrom c [] rest
      else composeFrom letter (between ++ [c]) rest

def compose : List Char → List Char
  | [] => []
  | c :: rest => if combiningClass c = 0 then composeFrom c [] rest else c :: compose rest

/-- The composed normal form of a text. A text without marks of Latin letters is in it already. -/
def normalForm (text : List Char) : List Char :=
  if text.all (·.toNat < firstMark) then text else compose (orderMarks (decompose text))

end Quartermaster.Text

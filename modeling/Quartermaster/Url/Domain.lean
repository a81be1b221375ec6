import Quartermaster.Text.NormalForm
import Quartermaster.Url.Domain.Direction
import Quartermaster.Url.Domain.Joining
import Quartermaster.Url.Domain.Mapping
import Quartermaster.Url.Punycode

/-!
Domain names. A name is brought to small letters and the composed normal form, its labels are read
and checked, and each is written in ASCII. A label may be given in ASCII already; then it has to
stand for a text that needs no mapping.
-/

namespace Quartermaster.Url

open Quartermaster.Text

def isForbidden (c : Char) : Bool :=
  c.toNat ≤ 0x20 || ['#', '/', ':', '<', '>', '?', '@', '[', '\\', ']', '^', '|'].contains c

def isForbiddenInName (c : Char) : Bool := isForbidden c || c = '%' || c.toNat = 0x7F

def isAscii (c : Char) : Bool := c.toNat < 0x80

/-- The mark in front of a label that stands for a text beyond ASCII. -/
def encodedMark : List Char := ['x', 'n', '-', '-']

def longestEncoded : Nat := 2000

def longestPlain : Nat := 1000

/-- What a name leaves of its characters; none if one of them is refused. -/
def mapName? (name : List Char) : Option (List Char) :=
  (name.mapM fun c => (fate c).text? c).map List.flatten

/-- Needs no mapping. -/
def isSettled (label : List Char) : Bool :=
  (label.all fun c => fate c = .kept) && normalForm label = label

def readLabel? (label : List Char) : Option (List Char) :=
  if encodedMark.isPrefixOf label then do
    let encoded := label.drop encodedMark.length
    guard (encoded.length ≤ longestEncoded ∧ encoded.all isAscii)
    let plain ← Punycode.decode? encoded
    guard (!plain.all isAscii ∧ isSettled plain)
    return plain
  else some label

/-- May stand in a name: no mark at its beginning, and joiners only where they fit. -/
def isSound (label : List Char) : Bool :=
  label.head?.all (!isMark ·) && joinersFit [] label &&
    (label.all isAscii || label.length ≤ longestPlain)

def labelText (label : List Char) : List Char :=
  if label.all isAscii then label else encodedMark ++ Punycode.encode label

def domainText? (name : List Char) : Option (List Char) := do
  let labels ← ((normalForm (← mapName? name)).splitOn '.').mapM readLabel?
  guard (labels.all isSound ∧ directionsFit labels)
  let text := ['.'].intercalate (labels.map labelText)
  guard (!text.any isForbiddenInName)
  return text

end Quartermaster.Url

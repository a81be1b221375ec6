import Quartermaster.Text.Decimal
import Quartermaster.Url.Domain
import Quartermaster.Url.Percent

/-!
Hosts of URLs: domain names in lower-case ASCII, and addresses of either kind in their shortest
form.
-/

namespace Quartermaster.Url

open Quartermaster.Text

/-! ### Addresses of four bytes -/

/-- A part of an address: decimal, octal behind a zero, hexadecimal behind a zero and an x. -/
def readPart? : List Char → Option Nat
  | [] => none
  | '0' :: 'x' :: rest => readBase? 16 rest
  | '0' :: 'X' :: rest => readBase? 16 rest
  | '0' :: d :: rest => readBase? 8 (d :: rest)
  | text => readBase? 10 text

/-- The parts of a name between its dots; a dot at the end counts for nothing. -/
def dotParts (name : List Char) : List (List Char) :=
  let parts := name.splitOn '.'
  if 1 < parts.length ∧ parts.getLast? = some [] then parts.dropLast else parts

/-- A name whose last part is a number has to be an address. -/
def endsInNumber (name : List Char) : Bool :=
  match (dotParts name).getLast? with
  | some part => (!part.isEmpty && part.all Char.isDigit) || (readPart? part).isSome
  | none => false

/-- Reads an address of four bytes, whose last part fills up what the others leave. -/
def readIpv4? (name : List Char) : Option Nat := do
  let parts ← (dotParts name).mapM readPart?
  guard (parts.length ≤ 4)
  let last ← parts.getLast?
  let firsts := parts.dropLast
  guard (firsts.all (· < 256) ∧ last < Nat.pow 256 (4 - firsts.length))
  let places := firsts.zipIdx.map fun (part, index) => part * Nat.pow 256 (3 - index)
  return places.foldl (· + ·) last

def ipv4Text (address : Nat) : List Char :=
  ['.'].intercalate ([3, 2, 1, 0].map fun place => natural (address / Nat.pow 256 place % 256))

/-! ### Addresses of eight words -/

/-- A word: one to four hexadecimal digits. -/
def readWord? (text : List Char) : Option Nat :=
  if 1 ≤ text.length ∧ text.length ≤ 4 then readBase? 16 text else none

/-- A byte in decimal without needless zeros. -/
def readByte? (text : List Char) : Option Nat := do
  guard (text ≠ [] ∧ text.all Char.isDigit ∧ (text.length = 1 ∨ text.head? ≠ some '0'))
  let byte ← readBase? 10 text
  guard (byte < 256)
  return byte

/-- The words of parts between colons; the last part may be four bytes with dots. -/
def readWords? : List (List Char) → Option (List Nat)
  | [] => some []
  | [part] =>
    if part.contains '.' then
      match (part.splitOn '.').mapM readByte? with
      | some [a, b, c, d] => some [256 * a + b, 256 * c + d]
      | _ => none
    else (readWord? part).map ([·])
  | part :: rest => do
    let word ← readWord? part
    return word :: (← readWords? rest)

def sideParts (text : List Char) : List (List Char) :=
  if text.isEmpty then [] else text.splitOn ':'

def splitDouble? : List Char → Option (List Char × List Char)
  | ':' :: ':' :: rest => some ([], rest)
  | c :: rest => (splitDouble? rest).map fun (front, back) => (c :: front, back)
  | [] => none

def readIpv6? (text : List Char) : Option (List Nat) :=
  match splitDouble? text with
  | none => (readWords? (text.splitOn ':')).filter (·.length = 8)
  | some (front, back) => do
    guard (!front.contains '.')
    let first ← readWords? (sideParts front)
    let last ← readWords? (sideParts back)
    guard (first.length + last.length ≤ 7)
    return first ++ List.replicate (8 - first.length - last.length) 0 ++ last

def wordText (word : Nat) : List Char := Nat.toDigits 16 word

def leadingZeros (words : List Nat) : Nat := (words.takeWhile (· = 0)).length

/-- The longest run of zeros, the first of several: how many words stand before it, and its length. -/
def longestZeros : List Nat → Nat × Nat
  | [] => (0, 0)
  | word :: rest =>
    let (before, length) := longestZeros rest
    let here := leadingZeros (word :: rest)
    if length ≤ here then (0, here) else (before + 1, length)

/-- Writes an address of eight words, with its longest run of zeros, if two or more, left out. -/
def ipv6Text (words : List Nat) : List Char :=
  let joined (words : List Nat) := [':'].intercalate (words.map wordText)
  let (before, length) := longestZeros words
  if length < 2 then joined words
  else joined (words.take before) ++ [':', ':'] ++ joined (words.drop (before + length))

/-! ### Names -/

def readName? (text : List Char) : Option (List Char) := do
  let name ← domainText? ((scanUtf8 none (percentDecode text)).map (·.getD replacement))
  guard (name ≠ [])
  if endsInNumber name then return ipv4Text (← readIpv4? name) else return name

/-- Reads a host, and writes it in its one form; none for what is no host. -/
def readHost? (special : Bool) (text : List Char) : Option (List Char) :=
  match text with
  | '[' :: rest => do
    guard (rest.getLast? = some ']')
    let words ← readIpv6? rest.dropLast
    return '[' :: ipv6Text words ++ [']']
  | text =>
    if special then readName? text
    else if text.any isForbidden then none
    else some (percentEncode isControl text)

end Quartermaster.Url

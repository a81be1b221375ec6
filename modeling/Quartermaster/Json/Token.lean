import Quartermaster.Json.Basic
import Quartermaster.Text.Hexadecimal

/-!
The tokens of JSON text, read and written. Blanks between tokens are dropped.
-/

namespace Quartermaster.Json

open Quartermaster.Text

inductive Token
  | openArray
  | closeArray
  | openObject
  | closeObject
  | comma
  | colon
  | null
  | bool (value : Bool)
  | number (literal : Numeral)
  | string (text : Option String)
  deriving DecidableEq

/-- The four blanks of JSON. -/
def isGap (c : Char) : Bool :=
  c = ' ' || c = '\n' || c = '\t' || c = '\r'

/-! ### Strings -/

def unit? (a b c d : Char) : Option Nat := do
  return 4096 * (← hexValue? a) + 256 * (← hexValue? b) + 16 * (← hexValue? c) + (← hexValue? d)

def escaped? : Char → Option Char
  | '"' => some '"'
  | '\\' => some '\\'
  | '/' => some '/'
  | 'b' => some '\x08'
  | 'f' => some '\x0c'
  | 'n' => some '\n'
  | 'r' => some '\r'
  | 't' => some '\t'
  | _ => none

/-- A piece of a string: a character, or an escaped 16-bit unit. -/
inductive Piece
  | char (c : Char)
  | unit (code : Nat)
  deriving DecidableEq

/--
The pieces of a string up to its closing quote, and what follows the quote. Control characters
have to be escaped.
-/
def readPieces? : List Char → Option (List Piece × List Char)
  | '"' :: rest => some ([], rest)
  | '\\' :: 'u' :: a :: b :: c :: d :: rest => do
    let code ← unit? a b c d
    let (pieces, rest) ← readPieces? rest
    return (.unit code :: pieces, rest)
  | '\\' :: c :: rest => do
    let c ← escaped? c
    let (pieces, rest) ← readPieces? rest
    return (.char c :: pieces, rest)
  | c :: rest => do
    guard (0x20 ≤ c.toNat ∧ c ≠ '\\')
    let (pieces, rest) ← readPieces? rest
    return (.char c :: pieces, rest)
  | [] => none

/--
The text of a string's pieces. A leading and a trailing surrogate that follow each other are one
character; any other surrogate is no text.
-/
def joinPieces? : List Piece → Option (List Char)
  | [] => some []
  | .char c :: rest => (joinPieces? rest).map (c :: ·)
  | .unit high :: .unit low :: rest =>
    if 0xD800 ≤ high ∧ high < 0xDC00 then
      if 0xDC00 ≤ low ∧ low < 0xE000 then
        (joinPieces? rest).map
          (Char.ofNat (0x10000 + (high - 0xD800) * 0x400 + (low - 0xDC00)) :: ·)
      else none
    else if 0xDC00 ≤ high ∧ high < 0xE000 then none
    else (joinPieces? (.unit low :: rest)).map (Char.ofNat high :: ·)
  | .unit code :: rest =>
    if 0xD800 ≤ code ∧ code < 0xE000 then none
    else (joinPieces? rest).map (Char.ofNat code :: ·)

def textOfPieces (pieces : List Piece) : Option String :=
  (joinPieces? pieces).map String.ofList

def escapeChar (c : Char) : List Char :=
  match c with
  | '"' => ['\\', '"']
  | '\\' => ['\\', '\\']
  | '\x08' => ['\\', 'b']
  | '\x0c' => ['\\', 'f']
  | '\n' => ['\\', 'n']
  | '\r' => ['\\', 'r']
  | '\t' => ['\\', 't']
  | c =>
    if c.toNat < 0x20 then
      ['\\', 'u', '0', '0', hexDigit (c.toNat / 16), hexDigit (c.toNat % 16)]
    else [c]
where
  hexDigit (n : Nat) : Char := Char.ofNat (if n < 10 then 48 + n else 87 + n)

/-- Writes a string with its quotes; one that is no text as a lone surrogate. -/
def quote : Option String → List Char
  | some text => '"' :: text.toList.flatMap escapeChar ++ ['"']
  | none => ['"', '\\', 'u', 'd', '8', '0', '0', '"']

/-! ### Numbers -/

/-- The whole part of a number: a single zero, or digits that do not start with zero. -/
def readWhole? (text : List Char) : Option (Nat × List Char) :=
  match spanDigits text with
  | ([], _) => none
  | ([d], rest) => some (d.val, rest)
  | (d :: ds, rest) => if d = Digit.zero then none else some (ofDigits (d :: ds), rest)

def readFraction? : List Char → Option (List Digit × List Char)
  | '.' :: rest =>
    match spanDigits rest with
    | ([], _) => none
    | (ds, rest) => some (ds, rest)
  | text => some ([], text)

def readPower? : List Char → Option (Option Int × List Char)
  | c :: rest =>
    if c = 'e' ∨ c = 'E' then
      (Double.readExponent? rest).map fun (e, rest) => (some e, rest)
    else some (none, c :: rest)
  | [] => some (none, [])

def readSize? (negative : Bool) (text : List Char) : Option (Numeral × List Char) := do
  let (whole, rest) ← readWhole? text
  let (fraction, rest) ← readFraction? rest
  let (exponent, rest) ← readPower? rest
  return (⟨negative, whole, fraction, exponent⟩, rest)

/-! ### Token streams -/

def readToken? : List Char → Option (Token × List Char)
  | '[' :: rest => some (.openArray, rest)
  | ']' :: rest => some (.closeArray, rest)
  | '\x7b' :: rest => some (.openObject, rest)
  | '\x7d' :: rest => some (.closeObject, rest)
  | ',' :: rest => some (.comma, rest)
  | ':' :: rest => some (.colon, rest)
  | '"' :: rest =>
    (readPieces? rest).map fun (pieces, rest) => (.string (textOfPieces pieces), rest)
  | 'n' :: 'u' :: 'l' :: 'l' :: rest => some (.null, rest)
  | 't' :: 'r' :: 'u' :: 'e' :: rest => some (.bool true, rest)
  | 'f' :: 'a' :: 'l' :: 's' :: 'e' :: rest => some (.bool false, rest)
  | '-' :: rest => (readSize? true rest).map fun (n, rest) => (.number n, rest)
  | text => (readSize? false text).map fun (n, rest) => (.number n, rest)

/--
All tokens of a text. Every token takes at least one character, so the number of characters
bounds the number of steps.
-/
def tokens? (text : List Char) : Option (List Token) :=
  go (text.length + 1) text
where
  go : Nat → List Char → Option (List Token)
    | 0, _ => none
    | _ + 1, [] => some []
    | steps + 1, c :: rest =>
      if isGap c then go steps rest
      else do
        let (token, rest) ← readToken? (c :: rest)
        return token :: (← go steps rest)

def Token.text : Token → List Char
  | .openArray => ['[']
  | .closeArray => [']']
  | .openObject => ['\x7b']
  | .closeObject => ['\x7d']
  | .comma => [',']
  | .colon => [':']
  | .null => ['n', 'u', 'l', 'l']
  | .bool true => ['t', 'r', 'u', 'e']
  | .bool false => ['f', 'a', 'l', 's', 'e']
  | .number n => n.text
  | .string s => quote s

end Quartermaster.Json

import Quartermaster.Text.Hexadecimal
import Quartermaster.Text.Unicode

/-!
Percent-encoding of bytes in URLs. Each part of a URL has its own set of characters that are not
written as they are.
-/

namespace Quartermaster.Url

open Quartermaster.Text

def hexDigit (n : Nat) : Char := Char.ofNat (if n < 10 then 48 + n else 55 + n)

def percent (byte : UInt8) : List Char :=
  ['%', hexDigit (byte.toNat / 16), hexDigit (byte.toNat % 16)]

def isControl (c : Char) : Bool := c.toNat < 0x20 || 0x7E < c.toNat

def inFragmentSet (c : Char) : Bool :=
  isControl c || [' ', '"', '<', '>', '`'].contains c

def inPathSet (c : Char) : Bool :=
  inFragmentSet c || ['#', '?', '\x7b', '\x7d'].contains c

def inUserSet (c : Char) : Bool :=
  inPathSet c || ['/', ':', ';', '=', '@', '[', '\\', ']', '^', '|'].contains c

/-- What is encoded in a query; the common schemes encode apostrophes too. -/
def inQuerySet (special : Bool) (c : Char) : Bool :=
  isControl c || [' ', '"', '#', '<', '>'].contains c || (special && c = '\'')

def percentEncode (encoded : Char → Bool) (text : List Char) : List Char :=
  text.flatMap fun c => if encoded c then (utf8 [c]).flatMap percent else [c]

/-- The bytes of a text with those behind percent signs taken for what they stand for. -/
def percentDecode : List Char → Bytes
  | '%' :: a :: b :: rest =>
    match hexValue? a, hexValue? b with
    | some high, some low => UInt8.ofNat (16 * high + low) :: percentDecode rest
    | _, _ => utf8 ['%'] ++ percentDecode (a :: b :: rest)
  | c :: rest => utf8 [c] ++ percentDecode rest
  | [] => []

/-! ### Forms -/

def isFormPlain (byte : UInt8) : Bool :=
  let c := Char.ofNat byte.toNat
  byte < 0x80 && (c.isAlphanum || c = '*' || c = '-' || c = '.' || c = '_')

def formText (text : String) : List Char :=
  (utf8 text.toList).flatMap fun byte =>
    if isFormPlain byte then [Char.ofNat byte.toNat]
    else if byte = 0x20 then ['+'] else percent byte

def formPair (pair : String × String) : List Char :=
  formText pair.1 ++ '=' :: formText pair.2

def form (pairs : List (String × String)) : List Char :=
  ['&'].intercalate (pairs.map formPair)

end Quartermaster.Url

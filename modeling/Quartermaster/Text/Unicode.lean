/-!
Bytes as text. Bytes that are no part of a well-formed sequence each stand for the replacement
character when decoding leniently, and make the text invalid when decoding strictly; both readings
come from one scan that marks the ill-formed places (`scanUtf8`).
-/

namespace Quartermaster.Text

abbrev Bytes := List UInt8

def utf8 (text : List Char) : Bytes :=
  text.flatMap String.utf8EncodeChar

/-- A sequence that has begun: the bytes that it still needs and the bits seen so far. -/
structure Sequence where
  needed : Nat
  low : UInt8
  high : UInt8
  code : Nat

inductive Start
  | char (c : Char)
  | sequence (begun : Sequence)
  | nothing

/--
What a byte starts. The bounds of the second byte keep out overlong forms, surrogates and codes
above the last character.
-/
def Start.ofByte (byte : UInt8) : Start :=
  let bits := byte.toNat
  if byte < 0x80 then .char (Char.ofNat bits)
  else if byte < 0xC2 then .nothing
  else if byte < 0xE0 then .sequence ⟨1, 0x80, 0xBF, bits - 0xC0⟩
  else if byte = 0xE0 then .sequence ⟨2, 0xA0, 0xBF, 0⟩
  else if byte = 0xED then .sequence ⟨2, 0x80, 0x9F, 0xD⟩
  else if byte < 0xF0 then .sequence ⟨2, 0x80, 0xBF, bits - 0xE0⟩
  else if byte = 0xF0 then .sequence ⟨3, 0x90, 0xBF, 0⟩
  else if byte < 0xF4 then .sequence ⟨3, 0x80, 0xBF, bits - 0xF0⟩
  else if byte = 0xF4 then .sequence ⟨3, 0x80, 0x8F, 4⟩
  else .nothing

/-- The state after a byte that continues no sequence, and what it completes. -/
def enter (byte : UInt8) : List (Option Char) × Option Sequence :=
  match Start.ofByte byte with
  | .char c => ([some c], none)
  | .sequence begun => ([], some begun)
  | .nothing => ([none], none)

/-- The state after a byte, and what it completes; a byte that cannot continue starts anew. -/
def step (state : Option Sequence) (byte : UInt8) : List (Option Char) × Option Sequence :=
  match state with
  | none => enter byte
  | some begun =>
    if begun.low ≤ byte ∧ byte ≤ begun.high then
      let code := begun.code * 64 + (byte.toNat - 0x80)
      if begun.needed ≤ 1 then ([some (Char.ofNat code)], none)
      else ([], some ⟨begun.needed - 1, 0x80, 0xBF, code⟩)
    else ((none :: (enter byte).1), (enter byte).2)

/-- The characters of a byte string, with `none` for every ill-formed part. -/
def scanUtf8 (state : Option Sequence) : Bytes → List (Option Char)
  | [] => if state.isSome then [none] else []
  | byte :: rest => (step state byte).1 ++ scanUtf8 (step state byte).2 rest

def decodeUtf8? (bytes : Bytes) : Option String :=
  ((scanUtf8 none bytes).mapM id).map String.ofList

def replacement : Char := '\uFFFD'

/-- The 16-bit units of a byte string, with `none` for a single byte at the end. -/
def units (bigEndian : Bool) : Bytes → List (Option Nat)
  | [] => []
  | [_] => [none]
  | first :: second :: rest =>
    let unit := if bigEndian then 256 * first.toNat + second.toNat
      else 256 * second.toNat + first.toNat
    some unit :: units bigEndian rest

/-- The characters of 16-bit units; a surrogate without its partner is replaced. -/
def joinUnits : List (Option Nat) → List Char
  | [] => []
  | none :: rest => replacement :: joinUnits rest
  | some high :: some low :: rest =>
    if 0xD800 ≤ high ∧ high < 0xDC00 ∧ 0xDC00 ≤ low ∧ low < 0xE000 then
      Char.ofNat (0x10000 + (high - 0xD800) * 0x400 + (low - 0xDC00)) :: joinUnits rest
    else single high :: joinUnits (some low :: rest)
  | some unit :: rest => single unit :: joinUnits rest
where
  single (unit : Nat) : Char :=
    if 0xD800 ≤ unit ∧ unit < 0xE000 then replacement else Char.ofNat unit

/--
The text of a received body: UTF-8 unless a byte order mark says otherwise. The mark is no part of
the text, and what is ill formed is replaced.
-/
def decodeBody : Bytes → String
  | 0xEF :: 0xBB :: 0xBF :: rest => lenient rest
  | 0xFE :: 0xFF :: rest => String.ofList (joinUnits (units true rest))
  | 0xFF :: 0xFE :: rest => String.ofList (joinUnits (units false rest))
  | bytes => lenient bytes
where
  lenient (bytes : Bytes) : String :=
    String.ofList ((scanUtf8 none bytes).map (·.getD replacement))

end Quartermaster.Text

import Quartermaster.Calendar.Instant
import Quartermaster.Json.Codec
import Quartermaster.Text.Blank
import Quartermaster.Text.Decimal

/-!
Timestamps: points in time as texts. They are written in UTC with the shortest fraction of three,
six or nine digits that is exact. They are read more freely: a time of another zone is turned into
UTC, numbers may be short, and blanks may stand around them.
-/

namespace Quartermaster.Calendar

open Quartermaster.Text

/-! ### Writing -/

/-- A year: four digits, and a sign if four digits cannot hold it. -/
def yearText (year : Int) : List Char :=
  if 0 ≤ year ∧ year ≤ 9999 then fixedWidth 4 year.toNat
  else
    let size := if year.natAbs < 10000 then fixedWidth 4 year.natAbs else natural year.natAbs
    (if year < 0 then '-' else '+') :: size

/-- The digits of a fraction of a second: none, three, six or nine. -/
def fractionDigits (nano : Nat) : List Char :=
  if nano = 0 then []
  else if nano % 1000000 = 0 then fixedWidth 3 (nano / 1000000)
  else if nano % 1000 = 0 then fixedWidth 6 (nano / 1000)
  else fixedWidth 9 nano

def fractionText (mark : Char) (nano : Nat) : List Char :=
  if nano = 0 then [] else mark :: fractionDigits nano

def dateTimeText (instant : Instant) : List Char :=
  yearText instant.date.year ++ '-' :: fixedWidth 2 instant.date.month ++
    '-' :: fixedWidth 2 instant.date.day ++ 'T' :: fixedWidth 2 instant.clock.hour ++
    ':' :: fixedWidth 2 instant.clock.minute ++ ':' :: fixedWidth 2 instant.clock.second ++
    fractionText '.' instant.clock.nano

def Instant.text (instant : Instant) : String :=
  String.ofList (dateTimeText instant ++ ['Z'])

/-! ### Reading -/

abbrev Reader (α : Type) := List Char → Option (α × List Char)

/-- At most `most` digits in front of a text, at least one. -/
def readDigits? (most : Nat) : Reader (List Digit) := fun text =>
  match (spanDigits text).1.take most with
  | [] => none
  | ds => some (ds, text.drop ds.length)

/-- A number of one or two digits with blanks in front. -/
def readShort? : Reader Nat := fun text =>
  (readDigits? 2 (trimStart text)).map fun (ds, rest) => (ofDigits ds, rest)

def readMark? (mark : Char) : Reader Unit := fun text =>
  match trimStart text with
  | c :: rest => if c = mark then some ((), rest) else none
  | [] => none

/-- A year: up to four digits, or a sign and any number of digits. -/
def readYear? : Reader Int := fun text =>
  match trimStart text with
  | '-' :: rest => signed rest |>.map fun (year, rest) => (-(year : Int), rest)
  | '+' :: rest => signed rest |>.map fun (year, rest) => ((year : Int), rest)
  | text => (readDigits? 4 text).map fun (ds, rest) => ((ofDigits ds : Int), rest)
where
  signed (text : List Char) : Option (Nat × List Char) :=
    match spanDigits text with
    | ([], _) => none
    | (ds, rest) => some (ofDigits ds, rest)

/-- A fraction of a second, if a point follows: nine digits count, the others are dropped. -/
def readFraction? : Reader Nat := fun text =>
  match text with
  | '.' :: rest =>
    match spanDigits rest with
    | ([], _) => none
    | (ds, rest) =>
      let kept := ds.take 9
      some (ofDigits kept * Nat.pow 10 (9 - kept.length), rest)
  | text => some (0, text)

/-- The minutes of a zone: hours of two digits, colons or blanks, minutes of two digits. -/
def readZoneMinutes? : Reader Nat := fun text =>
  match text with
  | a :: b :: rest => do
    let hours := 10 * (← charDigit? a).val + (← charDigit? b).val
    match rest.dropWhile fun c => c = ':' || isBlank c with
    | c :: d :: rest =>
      let minutes := 10 * (← charDigit? c).val + (← charDigit? d).val
      guard (minutes < 60 ∧ hours < 24)
      return (60 * hours + minutes, rest)
    | _ => none
  | _ => none

/-- By how many minutes the clock of a zone is ahead. -/
def readZone? : Reader Int := fun text =>
  match text with
  | '+' :: rest => readZoneMinutes? rest |>.map fun (minutes, rest) => ((minutes : Int), rest)
  | '-' :: rest => readZoneMinutes? rest |>.map fun (minutes, rest) => (-(minutes : Int), rest)
  | '\u2212' :: rest =>
    readZoneMinutes? rest |>.map fun (minutes, rest) => (-(minutes : Int), rest)
  | u :: rest =>
    if u = 'Z' ∨ u = 'z' then some (0, rest)
    else match rest with
      | t :: c :: rest =>
        if [u, t, c].map Char.toUpper = ['U', 'T', 'C'] then some (0, rest) else none
      | _ => none
  | [] => none

def readDate? : Reader (Option Date) := fun text => do
  let (year, rest) ← readYear? text
  let (_, rest) ← readMark? '-' rest
  let (month, rest) ← readShort? rest
  let (_, rest) ← readMark? '-' rest
  let (day, rest) ← readShort? rest
  return (Date.of? year month day, rest)

def readClock? : Reader (Option Clock) := fun text => do
  let (hour, rest) ← readShort? text
  let (_, rest) ← readMark? ':' rest
  let (minute, rest) ← readShort? rest
  let (_, rest) ← readMark? ':' rest
  let (second, rest) ← readShort? rest
  let (nano, rest) ← readFraction? rest
  return (Clock.of? hour minute second nano, rest)

def readSeparator? : Reader Unit := fun text =>
  match text with
  | c :: rest => if c = 'T' ∨ c = 't' ∨ c = ' ' then some ((), rest) else none
  | [] => none

def Instant.parse? (text : String) : Option Instant := do
  let (date, rest) ← readDate? text.toList
  let (_, rest) ← readSeparator? rest
  let (clock, rest) ← readClock? rest
  let (ahead, rest) ← readZone? (trimStart rest)
  guard (rest.all isBlank)
  Instant.ofLocal? (← date) (← clock) ahead

def Instant.codec : Json.Codec Instant := .textual Instant.parse? Instant.text

end Quartermaster.Calendar

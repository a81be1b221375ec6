import Quartermaster.Calendar.Names
import Quartermaster.Calendar.Timestamp

/-!
Patterns for dates and times. A pattern is text with directives, each a percent sign and a letter;
a sign between the two may ask for another padding of a number. A directive stands for one item or
for the items of a layout, and a point in time is written item by item (`Item.render?`).

A pattern is read twice. Before anything is written it is checked as a whole, in no language
(`isKnown`), and then it is read once more for the items of the language that is written. One
directive, the lenient zone, is meant for reading only: a pattern that holds it passes the check,
but no point in time can be written with it.
-/

namespace Quartermaster.Calendar

open Quartermaster.Text

inductive Padding
  | none
  | zero
  | blank
  deriving DecidableEq, Repr

inductive NumberField
  | year
  | century
  | yearOfCentury
  | isoYear
  | isoYearOfCentury
  | quarter
  | month
  | day
  | weekFromSunday
  | weekFromMonday
  | isoWeek
  | fromSunday
  | fromMonday
  | ordinal
  | hour
  | hour12
  | minute
  | second
  | nano
  | unixSeconds
  deriving DecidableEq, Repr

/-- How the zone is written, which is always that of UTC. -/
inductive ZoneStyle
  | name
  | plain
  | colon
  | colons
  | hours
  deriving DecidableEq, Repr

/-- How many digits of a fraction of a second are written. -/
inductive Precision
  | milli
  | micro
  | nano
  deriving DecidableEq, Repr

inductive Item
  | literal (c : Char)
  | number (field : NumberField) (padding : Padding)
  | month
  | monthShort
  | weekday
  | weekdayShort
  | halfDay
  | halfDayLower
  /-- Mark and three, six or nine digits; nothing for no fraction. -/
  | shortestFraction
  /-- Mark and digits. -/
  | markedFraction (precision : Precision)
  /-- Digits alone. -/
  | fraction (precision : Precision)
  | zone (style : ZoneStyle)
  /-- The standard timestamp with the zone in digits. -/
  | timestamp
  /-- A zone that is for reading only. -/
  | lenientZone
  deriving DecidableEq, Repr

/-! ### Reading patterns -/

def numberOfLetter? : Char → Option (NumberField × Padding)
  | 'Y' => some (.year, .zero)
  | 'C' => some (.century, .zero)
  | 'y' => some (.yearOfCentury, .zero)
  | 'G' => some (.isoYear, .zero)
  | 'g' => some (.isoYearOfCentury, .zero)
  | 'q' => some (.quarter, .zero)
  | 'm' => some (.month, .zero)
  | 'd' => some (.day, .zero)
  | 'e' => some (.day, .blank)
  | 'U' => some (.weekFromSunday, .zero)
  | 'W' => some (.weekFromMonday, .zero)
  | 'V' => some (.isoWeek, .zero)
  | 'w' => some (.fromSunday, .zero)
  | 'u' => some (.fromMonday, .zero)
  | 'j' => some (.ordinal, .zero)
  | 'H' => some (.hour, .zero)
  | 'k' => some (.hour, .blank)
  | 'I' => some (.hour12, .zero)
  | 'l' => some (.hour12, .blank)
  | 'M' => some (.minute, .zero)
  | 'S' => some (.second, .zero)
  | 'f' => some (.nano, .zero)
  | 's' => some (.unixSeconds, .none)
  | _ => none

def itemOfLetter? (letter : Char) : Option Item :=
  match numberOfLetter? letter with
  | some (field, padding) => some (.number field padding)
  | none =>
    match letter with
    | 'B' => some .month
    | 'b' => some .monthShort
    | 'h' => some .monthShort
    | 'A' => some .weekday
    | 'a' => some .weekdayShort
    | 'p' => some .halfDay
    | 'P' => some .halfDayLower
    | 'Z' => some (.zone .name)
    | 'z' => some (.zone .plain)
    | '+' => some .timestamp
    | 'n' => some (.literal '\n')
    | 't' => some (.literal '\t')
    | '%' => some (.literal '%')
    | _ => none

/-- The items of a layout, whose directives stand for one item each, if all of them are known. -/
def itemsOfLayout? : List Char → Option (List Item)
  | [] => some []
  | ['%'] => none
  | '%' :: letter :: rest => do return (← itemOfLetter? letter) :: (← itemsOfLayout? rest)
  | c :: rest => do return .literal c :: (← itemsOfLayout? rest)

/-- The layout that a letter stands for in a language, or where none is given. -/
def layoutOfLetter? (locale : Option Locale) : Char → Option String
  | 'D' => some "%m/%d/%y"
  | 'F' => some "%Y-%m-%d"
  | 'R' => some "%H:%M"
  | 'T' => some "%H:%M:%S"
  | 'v' => some "%e-%b-%Y"
  | 'c' => some (dateTimeLayout locale)
  | 'x' => some (dateLayout locale)
  | 'X' => some (timeLayout locale)
  | 'r' => some (clockFaceLayout locale)
  | _ => none

def itemsOfLetter? (locale : Option Locale) (letter : Char) : Option (List Item) :=
  match itemOfLetter? letter with
  | some item => some [item]
  | none => (layoutOfLetter? locale letter).bind fun layout => itemsOfLayout? layout.toList

/-- The item of a letter that has to be a number, with another padding. -/
def padded? (padding : Padding) (letter : Char) : Option Item :=
  (numberOfLetter? letter).map fun (field, _) => .number field padding

def precisionOfDigit? : Char → Option Precision
  | '3' => some .milli
  | '6' => some .micro
  | '9' => some .nano
  | _ => none

/-- The items of a directive, read behind its percent sign, and what follows. -/
def readDirective? (locale : Option Locale) : List Char → Option (List Item × List Char)
  | '-' :: letter :: rest => (padded? .none letter).map fun item => ([item], rest)
  | '0' :: letter :: rest => (padded? .zero letter).map fun item => ([item], rest)
  | '_' :: letter :: rest => (padded? .blank letter).map fun item => ([item], rest)
  | '#' :: 'z' :: rest => some ([.lenientZone], rest)
  | ':' :: 'z' :: rest => some ([.zone .colon], rest)
  | ':' :: ':' :: 'z' :: rest => some ([.zone .colons], rest)
  | ':' :: ':' :: ':' :: 'z' :: rest => some ([.zone .hours], rest)
  | '.' :: 'f' :: rest => some ([.shortestFraction], rest)
  | '.' :: digit :: 'f' :: rest =>
    (precisionOfDigit? digit).map fun precision => ([.markedFraction precision], rest)
  | letter :: rest =>
    match precisionOfDigit? letter, rest with
    | some precision, 'f' :: rest => some ([.fraction precision], rest)
    | _, rest => (itemsOfLetter? locale letter).map fun items => (items, rest)
  | [] => none

theorem length_of_readDirective? {locale : Option Locale} {text rest : List Char}
    {items : List Item} (read : readDirective? locale text = some (items, rest)) :
    rest.length < text.length := by
  unfold readDirective? at read
  split at read
  case h_10 =>
    split at read
    · simp only [Option.some.injEq, Prod.mk.injEq] at read
      simp only [← read.2, List.length_cons]
      omega
    · obtain ⟨_, _, equal⟩ := Option.map_eq_some_iff.1 read
      simp only [Prod.mk.injEq] at equal
      simp [← equal.2]
  all_goals first
    | (obtain ⟨_, _, equal⟩ := Option.map_eq_some_iff.1 read
       simp only [Prod.mk.injEq] at equal
       simp only [← equal.2, List.length_cons]
       omega)
    | (simp only [Option.some.injEq, Prod.mk.injEq] at read
       simp only [← read.2, List.length_cons]
       omega)
    | simp at read

def items? (locale : Option Locale) (text : List Char) : Option (List Item) :=
  match text with
  | [] => some []
  | c :: rest =>
    if c = '%' then
      match _h : readDirective? locale rest with
      | some (items, after) => (items? locale after).map (items ++ ·)
      | none => none
    else (items? locale rest).map (.literal c :: ·)
termination_by text.length
decreasing_by
  · have shorter := length_of_readDirective? _h
    simp only [List.length_cons]
    omega
  · simp

/-- The check of a pattern: all its directives are known. It takes no language. -/
def isKnown (text : List Char) : Bool := (items? none text).isSome

/-! ### Writing -/

def fillTo (width : Nat) (c : Char) (text : List Char) : List Char :=
  List.replicate (width - text.length) c ++ text

/-- A number of two digits. Of larger ones the tens are written as the character after nine. -/
def twoDigits (padding : Padding) (n : Nat) : List Char :=
  let ones := Char.ofNat (48 + n % 10)
  if n / 10 = 0 then
    match padding with
    | .none => [ones]
    | .zero => ['0', ones]
    | .blank => [' ', ones]
  else [Char.ofNat (48 + n / 10), ones]

/-- A number filled up to a width, which includes its sign; a plus sign only where asked for. -/
def wide (width : Nat) (padding : Padding) (signed : Bool) (i : Int) : List Char :=
  let sign := if i < 0 then ['-'] else if signed then ['+'] else []
  let size := natural i.natAbs
  match padding with
  | .none => sign ++ size
  | .zero => sign ++ fillTo (width - sign.length) '0' size
  | .blank => fillTo width ' ' (sign ++ size)

/-- A year: four digits, or five with a sign when it does not lie within four digits. -/
def wideYear (padding : Padding) (year : Int) : List Char :=
  if 0 ≤ year ∧ year < 10000 then wide 4 padding false year else wide 5 padding true year

def byteOf (i : Int) : Nat := (i % 256).toNat

def renderNumber (instant : Instant) (padding : Padding) : NumberField → List Char
  | .year => wideYear padding instant.date.year
  | .century => twoDigits padding (byteOf (instant.date.year / 100))
  | .yearOfCentury => twoDigits padding (byteOf (instant.date.year % 100))
  | .isoYear => wideYear padding instant.date.isoWeek.1
  | .isoYearOfCentury => twoDigits padding (byteOf (instant.date.isoWeek.1 % 100))
  | .quarter => natural instant.date.quarter
  | .month => twoDigits padding instant.date.month
  | .day => twoDigits padding instant.date.day
  | .weekFromSunday => twoDigits padding instant.date.weekFromSunday
  | .weekFromMonday => twoDigits padding instant.date.weekFromMonday
  | .isoWeek => twoDigits padding instant.date.isoWeek.2
  | .fromSunday => natural instant.date.weekday.fromSunday
  | .fromMonday => natural (instant.date.weekday.fromMonday + 1)
  | .ordinal => wide 3 padding false instant.date.ordinal
  | .hour => twoDigits padding instant.clock.hour
  | .hour12 => twoDigits padding instant.clock.hour12
  | .minute => twoDigits padding instant.clock.minute
  | .second => twoDigits padding instant.clock.second
  | .nano => wide 9 padding false instant.clock.nano
  | .unixSeconds => wide 9 padding false instant.unixSeconds

/-- The digits of a fraction of a second at a precision; the others are cut. -/
def precise (nano : Nat) : Precision → List Char
  | .milli => fixedWidth 3 (nano / 1000000)
  | .micro => fixedWidth 6 (nano / 1000)
  | .nano => fixedWidth 9 nano

def zoneText : ZoneStyle → String
  | .name => "UTC"
  | .plain => "+0000"
  | .colon => "+00:00"
  | .colons => "+00:00:00"
  | .hours => "+00"

/-- An item of a pattern at a point in time; none for what is for reading only. -/
def Item.render? (locale : Locale) (instant : Instant) : Item → Option (List Char)
  | .literal c => some [c]
  | .number field padding => some (renderNumber instant padding field)
  | .month => some (monthName locale instant.date.month).toList
  | .monthShort => some (shortName (monthName locale instant.date.month))
  | .weekday => some (weekdayName locale instant.date.weekday).toList
  | .weekdayShort => some (shortName (weekdayName locale instant.date.weekday))
  | .halfDay => some (halfDayName locale instant.clock.isAfternoon).toList
  | .halfDayLower =>
    some ((halfDayName locale instant.clock.isAfternoon).toList.map Char.toLower)
  | .shortestFraction => some (fractionText locale.decimalMark instant.clock.nano)
  | .markedFraction precision => some (locale.decimalMark :: precise instant.clock.nano precision)
  | .fraction precision => some (precise instant.clock.nano precision)
  | .zone style => some (zoneText style).toList
  | .timestamp => some (dateTimeText instant ++ (zoneText .colon).toList)
  | .lenientZone => none

def renderItems? (locale : Locale) (instant : Instant) (items : List Item) :
    Option (List Char) :=
  (items.mapM (Item.render? locale instant)).map List.flatten

/-- Why a text about points in time cannot be given. -/
inductive TimeTextError
  | invalidPattern (pattern : String)
  /-- The pattern passed its check, but it cannot be written. -/
  | unwritable
  | reversed
  deriving DecidableEq, Repr

def TimeTextError.message : TimeTextError → String
  | .invalidPattern pattern => "invalid datetime format '" ++ pattern ++ "'"
  | .unwritable => "datetime format asks for what cannot be written"
  | .reversed => "end time lies before start time"

/-- A point in time by a pattern, which is checked before anything is written. -/
def Instant.format (locale : Locale) (instant : Instant) (pattern : String) :
    Except TimeTextError String :=
  if isKnown pattern.toList then
    match (items? (some locale) pattern.toList).bind (renderItems? locale instant) with
    | none => .error .unwritable
    | some text => .ok (String.ofList text)
  else .error (.invalidPattern pattern)

end Quartermaster.Calendar

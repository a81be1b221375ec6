import Quartermaster.Text.Blank
import Quartermaster.Text.Mark

/-!
Directions of writing in domain names. In a name with a letter or a digit of a script that runs to
the left, every label has to run one way: it begins with a letter, holds only what fits that
letter's direction, and ends so that marks and signs cannot move to the next label.

The tables speak of the characters that a domain name may hold.
-/

namespace Quartermaster.Url

open Quartermaster.Text

inductive Direction
  | rightward
  | leftward
  /-- A digit that runs to the right by itself. -/
  | digit
  | arabicDigit
  | neutral
  /-- Runs with the character before it. -/
  | mark
  deriving DecidableEq, Repr

def leftwardRanges : List CodeRange := codeRanges
  "5BE-5F4 608 60B 60D 61B-64A 66D-6D5 6E5-6E6 6EE-6EF 6FA-7F5 7FA-8C9 FBB2-FBC2 FE73
   10800-1091B 10920-10B35 10B40-10D23 10D4A-10D4F 10D6F-10D8F 10E80-10EC7 10F00-10FF6
   1E800-1ED3D"

def digitRanges : List CodeRange := codeRanges
  "30-39 6F0-6F9 102E1-102FB"

def arabicDigitRanges : List CodeRange := codeRanges
  "660-669 66B-66C 10D30-10D49 10E60-10E7E"

def neutralRanges : List CodeRange := codeRanges
  "0-8 E-1B 21-2F 3A-60 7B-D7 F7 2B9-2BA 2C2-2CF 2D2-2ED 2EF-2FF 375 3F6 58A-58F 606-607 609-60A
   60C 60E-60F 66A 6DE 6E9 7F6-7F9 9F2-9F3 9FB AF1 BF3-BFA C78-C7E E3F F3A-F3D 1390-1399 1400
   169B-169C 17DB 17F0-180A 1940-1945 19DE-19FF 200C-214D 218A-2335 237B-2394 2396-26AB
   26AD-27FF 2900-2BFF 2CE5-2CEA 2CF9-2CFF 2E00-3004 3008-3020 3030 3037 303D-303F 30A0 30FB
   31C0-31E5 4DC0-4DFF A490-A4C6 A60D-A60F A673-A67F A700-A721 A788 A828-A82B A838-A839
   A874-A877 AB6A-AB6B FBC3-FE46 10101 10140-1018C 10190-101A0 1091F 10B39-10B3F 10D6E
   10ED0-10ED8 11052-11065 11660-1166C 11FD5-11FF1 16FE2 1CC00-1CEF0 1D1E9-1D245 1D300-1D356
   1E2FF 1E5FF 1EEF0-1F12F 1F16D-1F16F 1F1AD 1F260-1FBFA"

/-- Marks without room of their own that run to the right nevertheless. -/
def rightwardMarks : List CodeRange := codeRanges
  "CBF CC6 11A07-11A08 11C3F"

def direction (c : Char) : Direction :=
  if isNonspacingMark c then if isAmong rightwardMarks c then .rightward else .mark
  else if isAmong leftwardRanges c then .leftward
  else if isAmong digitRanges c then .digit
  else if isAmong arabicDigitRanges c then .arabicDigit
  else if isAmong neutralRanges c then .neutral
  else .rightward

/-- Makes the order of a name depend on directions. -/
def isLeftward (c : Char) : Bool :=
  0x590 ≤ c.toNat && (direction c = .leftward || direction c = .arabicDigit)

def Direction.fitsRightward (direction : Direction) : Bool :=
  direction ≠ .leftward && direction ≠ .arabicDigit

def Direction.endsRightward (direction : Direction) : Bool :=
  direction = .rightward || direction = .digit

def Direction.fitsLeftward (direction : Direction) : Bool := direction ≠ .rightward

def Direction.endsLeftward (direction : Direction) : Bool :=
  direction = .leftward || direction = .digit || direction = .arabicDigit

/-- Runs one way, given its directions. The marks at the end do not count as its end. -/
def runsOneWay (directions : List Direction) : Bool :=
  let ends := (dropEndWhile (· = .mark) directions).getLast?
  match directions.head? with
  | none => true
  | some .rightward => directions.all (·.fitsRightward) && ends.all (·.endsRightward)
  | some .leftward =>
    directions.all (·.fitsLeftward) && ends.all (·.endsLeftward) &&
      !(directions.contains .digit && directions.contains .arabicDigit)
  | some _ => false

/-- The labels of a name agree on their directions where directions matter. -/
def directionsFit (labels : List (List Char)) : Bool :=
  !labels.any (·.any isLeftward) || labels.all fun label => runsOneWay (label.map direction)

end Quartermaster.Url

import Quartermaster.Text.Blank
import Quartermaster.Url.Host

/-!
Absolute URLs with a host. A URL is held in parts, each in its one normal form, so that two
spellings of a URL are read as the same one: scheme and host are in lower case, a usual number and
dots in the path are gone, and what a part may not hold is percent-encoded.
-/

namespace Quartermaster

open Quartermaster.Text

structure Url where
  scheme : String
  userName : String
  password : Option String
  host : String
  /-- The number behind the host, unless it is the usual one of the scheme. -/
  portNumber : Option Nat
  path : String
  query : Option String
  fragment : Option String
  deriving DecidableEq, Repr

namespace Url

/-! ### Writing -/

def marked (mark : String) (part : Option String) : String :=
  match part with
  | some part => mark ++ part
  | none => ""

def userText (url : Url) : String :=
  if url.userName = "" ∧ url.password = none then ""
  else url.userName ++ marked ":" url.password ++ "@"

def text (url : Url) : String :=
  url.scheme ++ "://" ++ url.userText ++ url.host ++
    marked ":" (url.portNumber.map fun number => String.ofList (natural number)) ++
    url.path ++ marked "?" url.query ++ marked "#" url.fragment

/-! ### Reading -/

/-- Without control characters and blanks around, and without line breaks and tabs anywhere. -/
def clean (text : List Char) : List Char :=
  let isEdge (c : Char) : Bool := c.toNat ≤ 0x20
  (dropEndWhile isEdge (text.dropWhile isEdge)).filter fun c => c ≠ '\t' ∧ c ≠ '\n' ∧ c ≠ '\r'

def isSchemeChar (c : Char) : Bool :=
  c.isAlphanum || c = '+' || c = '-' || c = '.'

def readScheme? (text : List Char) : Option (String × List Char) :=
  match text with
  | [] => none
  | c :: _ =>
    if c.isAlpha then
      match text.dropWhile isSchemeChar with
      | ':' :: rest => some (String.ofList ((text.takeWhile isSchemeChar).map Char.toLower), rest)
      | _ => none
    else none

/-- Schemes with rules of their own for slashes, hosts and paths. -/
def isSpecial (scheme : String) : Bool :=
  ["http", "https", "ws", "wss", "ftp", "file"].contains scheme

def usualPortNumber? : String → Option Nat
  | "http" => some 80
  | "ws" => some 80
  | "https" => some 443
  | "wss" => some 443
  | "ftp" => some 21
  | _ => none

/-- Ends a host or a part of a path. Special schemes take a backslash for a slash. -/
def isSlash (special : Bool) (c : Char) : Bool := c = '/' || (special && c = '\\')

def splitFirst (mark : Char) (text : List Char) : List Char × Option (List Char) :=
  match text.dropWhile (· ≠ mark) with
  | [] => (text, none)
  | _ :: rest => (text.takeWhile (· ≠ mark), some rest)

/-- What stands before and behind the last at sign; nothing before if there is none. -/
def splitUser (authority : List Char) : Option (List Char) × List Char :=
  match authority.reverse.dropWhile (· ≠ '@') with
  | [] => (none, authority)
  | _ :: rest => (some rest.reverse, (authority.reverse.takeWhile (· ≠ '@')).reverse)

/-- The host and the number behind it. Colons within brackets belong to the host. -/
def splitPortNumber (text : List Char) : List Char × Option (List Char) :=
  match text with
  | '[' :: _ =>
    let inner := text.takeWhile (· ≠ ']')
    match text.drop inner.length with
    | [] => (text, none)
    | bracket :: rest =>
      let (more, number) := splitFirst ':' rest
      (inner ++ bracket :: more, number)
  | text => splitFirst ':' text

/-- Reads the number behind a host; the usual one of the scheme is left out. -/
def readPortNumber? (scheme : String) : Option (List Char) → Option (Option Nat)
  | none => some none
  | some [] => some none
  | some text => do
    let number := ofDigits (← allDigits? text)
    guard (number < 65536)
    return if usualPortNumber? scheme = some number then none else some number

def segments (special : Bool) (path : List Char) : List (List Char) :=
  (path.map fun c => if isSlash special c then '/' else c).splitOn '/'

/-- The dots that a part of a path stands for, which may be percent-encoded; none for other parts. -/
def dots? : List Char → Option Nat
  | [] => some 0
  | '.' :: rest => (dots? rest).map (· + 1)
  | '%' :: '2' :: 'e' :: rest => (dots? rest).map (· + 1)
  | '%' :: '2' :: 'E' :: rest => (dots? rest).map (· + 1)
  | _ => none

/-- Names a drive: a letter and a colon or a bar. -/
def isDrive : List Char → Bool
  | [c, mark] => c.isAlpha && (mark = ':' || mark = '|')
  | _ => false

/-- Goes back by one part, which stays if it names a drive. The last part stands first. -/
def back : List (List Char) → List (List Char)
  | [] => []
  | part :: rest => if isDrive part then part :: rest else rest

/--
Follows the parts of a path: one dot stays, two dots go back, and either at the end leaves an empty
part. The parts so far are held with the last one first.
-/
def follow (taken : List (List Char)) : List (List Char) → List (List Char)
  | [] => taken.reverse
  | part :: rest =>
    match dots? part with
    | some 1 => follow (if rest.isEmpty then [] :: taken else taken) rest
    | some 2 =>
      follow (if rest.isEmpty then [] :: back taken else back taken) rest
    | _ => follow (percentEncode inPathSet part :: taken) rest

def readPath (special : Bool) (text : List Char) : String :=
  match text with
  | [] => if special then "/" else ""
  | _ :: path => String.ofList ('/' :: ['/'].intercalate (follow [] (segments special path)))

def readSlashes? (scheme : String) (text : List Char) : Option (List Char) :=
  if isSpecial scheme ∧ scheme ≠ "file" then some (text.dropWhile (isSlash true))
  else
    match text with
    | a :: b :: rest =>
      if isSlash (isSpecial scheme) a ∧ isSlash (isSpecial scheme) b then some rest else none
    | _ => none

/-- User name and password, percent-encoded; an empty password is none. -/
def readUser (text : Option (List Char)) : String × Option String :=
  let encoded (part : List Char) := String.ofList (percentEncode inUserSet part)
  match text with
  | none => ("", none)
  | some text =>
    let (name, password) := splitFirst ':' text
    (encoded name, (password.filter (· ≠ [])).map encoded)

def parse? (text : String) : Option Url := do
  let (scheme, rest) ← readScheme? (clean text.toList)
  let special := isSpecial scheme
  let (beforeFragment, fragment) := splitFirst '#' rest
  let (beforeQuery, query) := splitFirst '?' beforeFragment
  let rest ← readSlashes? scheme beforeQuery
  let authority := rest.takeWhile fun c => !isSlash special c
  let (user, hostAndPort) := splitUser authority
  let (hostText, numberText) := splitPortNumber hostAndPort
  let host ← readHost? special hostText
  guard (host ≠ [])
  let portNumber ← readPortNumber? scheme numberText
  let (userName, password) := readUser user
  return {
    scheme := scheme
    userName := userName
    password := password
    host := String.ofList host
    portNumber := portNumber
    path := readPath special (rest.drop authority.length)
    query := query.map fun query => String.ofList (percentEncode (inQuerySet special) query)
    fragment := fragment.map fun part => String.ofList (percentEncode inFragmentSet part) }

/-! ### Changing -/

def addQuery (url : Url) (pairs : List (String × String)) : Url :=
  let added := String.ofList (form pairs)
  let query := match url.query.filter (· ≠ "") with
    | none => added
    | some query => if pairs.isEmpty then query else query ++ "&" ++ added
  { url with query := if query = "" then none else some query }

def withoutUser (url : Url) : Url := { url with userName := "", password := none }

end Url

end Quartermaster

import Quartermaster.Text.Blank
import Quartermaster.Text.Unicode

/-!
Variables of the environment from a file of assignments. A value may be quoted in two ways, hold
escapes and the values of other variables, and be followed by a comment. Reading ends at the first
line that is no assignment, and the environment itself counts before the file.
-/

namespace Quartermaster.CommandLine

open Quartermaster.Text

abbrev Variables := List (String × String)

inductive Quoting
  | bare
  | double
  deriving DecidableEq, Repr

inductive ValueMode
  | within (quoting : Quoting)
  | single
  | escape (quoting : Quoting)
  | name (quoting : Quoting) (name : List Char)
  /-- In the name of a variable between braces. -/
  | braced (quoting : Quoting) (name : List Char)
  | ended
  | comment
  deriving DecidableEq, Repr

def escaped? : Char → Option Char
  | 'n' => some '\n'
  | '\\' => some '\\'
  | '\'' => some '\''
  | '"' => some '"'
  | '$' => some '$'
  | ' ' => some ' '
  | _ => none

/-- May stand in the name of a variable within a value: letters of any alphabet, and digits. -/
def isNameChar (c : Char) : Bool := c.isAlphanum || 0x80 ≤ c.toNat

/-- The value of a variable; one that is not set has an empty value. -/
def valueOf (environment : Variables) (name : List Char) : List Char :=
  ((environment.lookup (String.ofList name)).getD "").toList

def readValueChar (environment : Variables) (state : ValueMode × List Char) (c : Char) :
    Option (ValueMode × List Char) :=
  let (mode, output) := state
  match mode with
  | .comment => some state
  | .ended =>
    if c = ' ' ∨ c = '\t' then some state
    else if c = '#' then some (.comment, output) else none
  | .escape quoting => (escaped? c).map fun c => (.within quoting, output ++ [c])
  | .single => if c = '\'' then some (.within .bare, output) else some (.single, output ++ [c])
  | .name quoting name =>
    if isNameChar c then some (.name quoting (name ++ [c]), output)
    else if c = '\x7b' ∧ name = [] then some (.braced quoting [], output)
    else
      let output := output ++ valueOf environment name
      if c = '$' then some (.name quoting [], output)
      else some (.within quoting, output ++ [c])
  | .braced quoting name =>
    if c = '\x7d' then some (.within quoting, output ++ valueOf environment name)
    else some (.braced quoting (name ++ [c]), output)
  | .within quoting =>
    if c = '$' then some (.name quoting [], output)
    else if c = '\\' then some (.escape quoting, output)
    else
      match quoting with
      | .double =>
        if c = '"' then some (.within .bare, output) else some (.within .double, output ++ [c])
      | .bare =>
        if c = '\'' then some (.single, output)
        else if c = '"' then some (.within .double, output)
        else if c = ' ' ∨ c = '\t' then some (.ended, output)
        else some (.within .bare, output ++ [c])

/-- The value of a text, if every quotation and every brace in it is closed. -/
def readValue? (environment : Variables) (text : List Char) : Option (List Char) := do
  let (mode, output) ← text.foldlM (readValueChar environment) (.within .bare, [])
  match mode with
  | .within .bare => return output
  | .escape .bare => return output
  | .name .bare name => return output ++ valueOf environment name
  | .ended => return output
  | .comment => return output
  | _ => none

def readKey? (text : List Char) : Option (List Char × List Char) :=
  match text with
  | [] => none
  | c :: _ =>
    let belongs (c : Char) : Bool := c.isAlphanum || c = '_' || c = '.'
    if c.isAlpha || c = '_' then some (text.takeWhile belongs, text.dropWhile belongs) else none

/-- The name of an assignment and what follows its equals sign; the name may be exported. -/
def readTarget? (line : List Char) : Option (List Char × List Char) := do
  let (key, rest) ← readKey? line
  match trimStart rest with
  | '=' :: rest => return (key, rest)
  | rest =>
    guard (key = ['e', 'x', 'p', 'o', 'r', 't'])
    let (key, rest) ← readKey? rest
    match trimStart rest with
    | '=' :: rest => return (key, rest)
    | _ => none

def isBlankOrComment (text : List Char) : Bool :=
  text.isEmpty || text.head? = some '#'

/--
The assignment of a line; `some none` for a line that holds nothing, `none` for one that is no
assignment.
-/
def readLine? (environment : Variables) (line : List Char) : Option (Option (String × String)) := do
  let line := trim line
  if isBlankOrComment line then return none
  let (key, rest) ← readTarget? line
  let rest := trimStart rest
  if isBlankOrComment rest then return some (String.ofList key, "")
  let value ← readValue? environment rest
  return some (String.ofList key, String.ofList value)

/-- The lines of a file; a line break at the end starts no line. -/
def lines (bytes : Bytes) : List Bytes :=
  let parts := bytes.splitOn 0x0A
  let parts := if parts.getLast? = some [] then parts.dropLast else parts
  parts.map fun line => if line.getLast? = some 0x0D then line.dropLast else line

/-- Adds the assignments of lines. A variable that is set already stays as it is. -/
def addLines (environment : Variables) : List Bytes → Variables
  | [] => environment
  | line :: rest =>
    match (decodeUtf8? line).bind fun text => readLine? environment text.toList with
    | none => environment
    | some none => addLines environment rest
    | some (some (key, value)) =>
      if (environment.lookup key).isSome then addLines environment rest
      else addLines (environment ++ [(key, value)]) rest

def withFile (environment : Variables) (content : Bytes) : Variables :=
  addLines environment (lines content)

end Quartermaster.CommandLine

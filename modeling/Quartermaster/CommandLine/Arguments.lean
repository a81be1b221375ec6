import Quartermaster.Double.Reading
import Quartermaster.Text.Decimal

/-!
Arguments of a command line: flags, options with a value, and operands. An option takes its value
from behind an equals sign or from the next argument, which must not look like an option. Nothing
may be given twice, and behind a double hyphen there are operands only.
-/

namespace Quartermaster.CommandLine

inductive ValueKind
  | text
  | path
  | integer
  | number
  deriving DecidableEq, Repr

def ValueKind.accepts (kind : ValueKind) (value : String) : Bool :=
  match kind with
  | .text => true
  | .path => value ≠ ""
  | .integer => (Text.readInt64? value.toList).isSome
  | .number => (Double.read? value.toList).isSome

structure Grammar where
  flags : List String
  options : List (String × ValueKind)
  operands : List ValueKind
  /-- Whether the version may be asked for. -/
  tellsVersion : Bool
  deriving Repr

/-- Why arguments do not name something to run. -/
inductive Halt
  | help
  | version
  | misuse
  deriving DecidableEq, Repr

structure Arguments where
  flags : List String
  options : List (String × String)
  operands : List String
  /-- The option whose value has to come next. -/
  pending : Option (String × ValueKind)
  /-- Whether there are operands only from here on. -/
  operandsOnly : Bool
  deriving DecidableEq, Repr

namespace Arguments

def empty : Arguments := ⟨[], [], [], none, false⟩

/-- Was given, as a flag or with a value. -/
def isGiven (arguments : Arguments) (name : String) : Bool :=
  name ∈ arguments.flags || (arguments.options.lookup name).isSome

def addOperand (grammar : Grammar) (arguments : Arguments) (value : String) :
    Except Halt Arguments :=
  match grammar.operands[arguments.operands.length]? with
  | some kind =>
    if kind.accepts value then .ok { arguments with operands := arguments.operands ++ [value] }
    else .error .misuse
  | none => .error .misuse

def addOption (arguments : Arguments) (name : String) (kind : ValueKind) (value : String) :
    Except Halt Arguments :=
  if arguments.isGiven name || !kind.accepts value then .error .misuse
  else .ok { arguments with options := arguments.options ++ [(name, value)], pending := none }

/-- Looks like an option; a hyphen alone does not. -/
def isOptionLike (argument : String) : Bool :=
  argument.toList.head? = some '-' && argument ≠ "-"

/-- The name of a long option and the value behind its equals sign. -/
def splitLong (body : List Char) : String × Option String :=
  let name := String.ofList (body.takeWhile (· ≠ '='))
  match body.dropWhile (· ≠ '=') with
  | [] => (name, none)
  | _ :: value => (name, some (String.ofList value))

def addLong (grammar : Grammar) (arguments : Arguments) (body : List Char) :
    Except Halt Arguments :=
  let (name, value) := splitLong body
  match value, grammar.options.lookup name with
  | some value, some kind => addOption arguments name kind value
  | some _, none => .error .misuse
  | none, some kind =>
    if arguments.isGiven name then .error .misuse
    else .ok { arguments with pending := some (name, kind) }
  | none, none =>
    if name ∈ grammar.flags then
      if arguments.isGiven name then .error .misuse
      else .ok { arguments with flags := arguments.flags ++ [name] }
    else if name = "help" then .error .help
    else if name = "version" ∧ grammar.tellsVersion then .error .version
    else .error .misuse

/-- What short options ask for; the first letter decides. -/
def haltOfShort (grammar : Grammar) : List Char → Halt
  | 'h' :: _ => .help
  | 'V' :: _ => if grammar.tellsVersion then .version else .misuse
  | _ => .misuse

def add (grammar : Grammar) (arguments : Arguments) (argument : String) :
    Except Halt Arguments :=
  match arguments.pending with
  | some (name, kind) =>
    if isOptionLike argument then .error .misuse else addOption arguments name kind argument
  | none =>
    if arguments.operandsOnly || !isOptionLike argument then
      addOperand grammar arguments argument
    else
      match argument.toList with
      | ['-', '-'] => .ok { arguments with operandsOnly := true }
      | '-' :: '-' :: body => addLong grammar arguments body
      | letters => .error (haltOfShort grammar (letters.drop 1))

/-- The arguments, if none of them waits for a value and no operand is missing. -/
def complete (grammar : Grammar) (arguments : Arguments) : Except Halt Arguments :=
  if arguments.pending.isNone && arguments.operands.length = grammar.operands.length then
    .ok arguments
  else .error .misuse

def read (grammar : Grammar) (arguments : List String) : Except Halt Arguments := do
  complete grammar (← arguments.foldlM (add grammar) empty)

def flag (arguments : Arguments) (name : String) : Bool := name ∈ arguments.flags

def option? (arguments : Arguments) (name : String) : Option String :=
  arguments.options.lookup name

def integer? (arguments : Arguments) (name : String) : Option Int64 :=
  (arguments.option? name).bind fun value => Text.readInt64? value.toList

end Arguments

end Quartermaster.CommandLine

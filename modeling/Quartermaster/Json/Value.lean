import Quartermaster.Json.Flaw
import Quartermaster.Json.Text
import Quartermaster.Table

/-!
Free-form values: what a document means when nothing is asked of it beforehand. A literal is a
number, and of members with one name the last one counts; names are in increasing order.
-/

namespace Quartermaster.Json

inductive Value
  | null
  | bool (value : Bool)
  | integer (value : Int)
  | real (value : Double)
  | string (value : String)
  | array (items : List Value)
  | object (members : List (String × Value))

namespace Value

instance : Inhabited Value := ⟨.null⟩

def ofNumeral? (n : Numeral) : Option Value :=
  match n.integer? with
  | some i => some (.integer i)
  | none => n.real?.map .real

/-- Reads a value from a document in which at most `depth` containers may be open at once. -/
def read (depth : Nat) : Json → Except Flaw Value
  | .null => .ok .null
  | .bool b => .ok (.bool b)
  | .number n =>
    match ofNumeral? n with
    | some value => .ok value
    | none => .error .malformed
  | .string (some text) => .ok (.string text)
  | .string none => .error .malformed
  | .array items =>
    match depth with
    | 0 => .error .malformed
    | depth + 1 => (readItems depth items).map .array
  | .object members =>
    match depth with
    | 0 => .error .malformed
    | depth + 1 => (readMembers depth members).map fun members => .object (sortEntries members)
where
  readItems (depth : Nat) : List Json → Except Flaw (List Value)
    | [] => .ok []
    | item :: rest => do
      let value ← read depth item
      return value :: (← readItems depth rest)
  readMembers (depth : Nat) : List (Option String × Json) → Except Flaw (List (String × Value))
    | [] => .ok []
    | (none, _) :: _ => .error .malformed
    | (some name, document) :: rest => do
      let value ← read depth document
      return (name, value) :: (← readMembers depth rest)

/-- The document of a value; a number that is not finite has none and is written as null. -/
def write : Value → Json
  | .null => .null
  | .bool b => .bool b
  | .integer i => .ofInt i
  | .real x => ((Numeral.ofDouble? x).map Json.number).getD .null
  | .string text => .ofString text
  | .array items => .array (writeItems items)
  | .object members => .object (writeMembers members)
where
  writeItems : List Value → List Json
    | [] => []
    | item :: rest => write item :: writeItems rest
  writeMembers : List (String × Value) → List (Option String × Json)
    | [] => []
    | (name, value) :: rest => (some name, write value) :: writeMembers rest

def compact (value : Value) : String := value.write.compact

def member? (name : String) : Value → Option Value
  | .object members => members.lookup name
  | _ => none

def text? : Value → Option String
  | .string text => some text
  | _ => none

def items? : Value → Option (List Value)
  | .array items => some items
  | _ => none

def parse? (text : String) : Option Value := do
  let document ← Json.parse? text
  (read nestingLimit document).toOption

end Value

end Quartermaster.Json

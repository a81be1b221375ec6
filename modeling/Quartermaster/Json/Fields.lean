import Quartermaster.Json.Codec

/-!
Codecs of structures, put together from their fields in declaration order. A structure is written
as an object; it is read from an object, whose members may stand in any order, or from an array of
the fields in declaration order. Members that are no field are not looked at.

Of several flaws in an object the one that stands first in the text counts, and a flaw counts
before a missing field, of which the first in declaration order is named (`Outcome.apply`).
-/

namespace Quartermaster.Json

/-- What a field holds that was not written. -/
inductive Absence (α : Type)
  | required
  /-- An object may do without the field, an array may not. -/
  | unnamed (value : α)
  /-- Both an object and an array may do without the field. -/
  | default (value : α)

structure Field (ρ α : Type) where
  name : String
  view : ρ → α
  codec : Codec α
  absence : Absence α

/-- The fields of a structure so far, and what is made of their values. -/
inductive Fields (ρ : Type) : Type → Type 1
  | done {α : Type} (make : α) : Fields ρ α
  | more {β α : Type} (front : Fields ρ (β → α)) (last : Field ρ β) : Fields ρ α

/-- What reading fields from the members of an object comes to. -/
inductive Outcome (α : Type)
  | read (value : α)
  | missing (name : String)
  | flawed (position : Nat) (flaw : Flaw)

namespace Outcome

def apply : Outcome (β → α) → Outcome β → Outcome α
  | .flawed first flaw, .flawed second other =>
    if second < first then .flawed second other else .flawed first flaw
  | .flawed position flaw, _ => .flawed position flaw
  | _, .flawed position flaw => .flawed position flaw
  | .missing name, _ => .missing name
  | .read _, .missing name => .missing name
  | .read make, .read value => .read (make value)

def map (make : α → β) : Outcome α → Outcome β
  | .read value => .read (make value)
  | .missing name => .missing name
  | .flawed position flaw => .flawed position flaw

def toExcept : Outcome α → Except Flaw α
  | .read value => .ok value
  | .missing name => .error (.missing name)
  | .flawed _ flaw => .error flaw

end Outcome

abbrev Numbered := List (Nat × Member)

def numbered (members : List Member) : Numbered :=
  members.zipIdx.map fun (member, position) => (position, member)

def occurrences (name : String) (members : Numbered) : List (Nat × Json) :=
  members.filterMap fun (position, member) =>
    if member.1 = some name then some (position, member.2) else none

namespace Field

/-- What an object comes to that has no member for the field. -/
def ofUnnamed (field : Field ρ α) : Outcome α :=
  match field.absence with
  | .required => .missing field.name
  | .unnamed value => .read value
  | .default value => .read value

/-- Reads the field from the members of an object. A second member of its name is a flaw. -/
def readNamed (field : Field ρ α) (depth : Nat) (members : Numbered) : Outcome α :=
  match occurrences field.name members with
  | [] => field.ofUnnamed
  | (position, document) :: others =>
    match field.codec.read depth document with
    | .error flaw => .flawed position flaw
    | .ok value =>
      match others with
      | [] => .read value
      | (again, _) :: _ => .flawed again (.duplicate field.name)

def readItem (field : Field ρ α) (depth : Nat) : List Json → Except Flaw (α × List Json)
  | item :: rest => do return (← field.codec.read depth item, rest)
  | [] =>
    match field.absence with
    | .default value => .ok (value, [])
    | _ => .error .mismatch

end Field

namespace Fields

def names : Fields ρ α → List String
  | .done _ => []
  | .more front last => front.names ++ [last.name]

def value : Fields ρ α → ρ → α
  | .done make, _ => make
  | .more front last, record => front.value record (last.view record)

def write : Fields ρ α → ρ → List (String × Json)
  | .done _, _ => []
  | .more front last, record =>
    front.write record ++ [(last.name, last.codec.write (last.view record))]

def readNamed (depth : Nat) (members : Numbered) : Fields ρ α → Outcome α
  | .done make => .read make
  | .more front last => (front.readNamed depth members).apply (last.readNamed depth members)

def readItems (depth : Nat) (items : List Json) : Fields ρ α → Except Flaw (α × List Json)
  | .done make => .ok (make, items)
  | .more front last => do
    let (make, rest) ← front.readItems depth items
    let (value, rest) ← last.readItem depth rest
    return (make value, rest)

/-- The first member whose name is no text is a flaw. -/
def checkNames (members : Numbered) : Outcome Unit :=
  match members.find? fun member => member.2.1.isNone with
  | some (position, _) => .flawed position .malformed
  | none => .read ()

def readObject (fields : Fields ρ α) (depth : Nat) (members : List Member) : Except Flaw α :=
  let members := numbered members
  let named := (checkNames members).map fun _ value => value
  (named.apply (fields.readNamed depth members)).toExcept

def readArray (fields : Fields ρ α) (depth : Nat) (items : List Json) : Except Flaw α := do
  let (value, rest) ← fields.readItems depth items
  if rest.isEmpty then return value else .error .malformed

def codec (fields : Fields ρ ρ) : Codec ρ where
  read depth document :=
    match document, depth with
    | .array items, depth + 1 => fields.readArray depth items
    | .object members, depth + 1 => fields.readObject depth members
    | .array _, 0 => .error .malformed
    | .object _, 0 => .error .malformed
    | document, _ => .error (unexpected document)
  write record := .ofMembers (fields.write record)

def required (front : Fields ρ (β → α)) (name : String) (view : ρ → β) (codec : Codec β) :
    Fields ρ α :=
  .more front ⟨name, view, codec, .required⟩

/-- One field more, which may be absent or null. -/
def optional (front : Fields ρ (Option β → α)) (name : String) (view : ρ → Option β)
    (codec : Codec β) : Fields ρ α :=
  .more front ⟨name, view, codec.option, .default none⟩

/-- One field more, which may be null, and absent from an object. -/
def nullable (front : Fields ρ (Option β → α)) (name : String) (view : ρ → Option β)
    (codec : Codec β) : Fields ρ α :=
  .more front ⟨name, view, codec.option, .unnamed none⟩

/-- One field more, which holds a given value if it is absent; null is not absent. -/
def defaulted (front : Fields ρ (β → α)) (name : String) (view : ρ → β) (codec : Codec β)
    (value : β) : Fields ρ α :=
  .more front ⟨name, view, codec, .default value⟩

end Fields

end Quartermaster.Json

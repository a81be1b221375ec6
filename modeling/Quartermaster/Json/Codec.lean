import Quartermaster.Json.Text
import Quartermaster.Json.Value

/-!
Codecs between values and JSON documents. A codec is told how many containers may still be open
below the place where it reads, so that a text that nests too deeply is refused wherever the value
is asked for, and parts that no codec looks at may nest as they like.
-/

namespace Quartermaster.Json

structure Codec (α : Type) where
  /-- Reads a value, given the number of containers that may be open at once. -/
  read : Nat → Json → Except Flaw α
  write : α → Json

namespace Codec

/-- Reading a written value gives the value, if the document does not nest too deeply. -/
def Faithful (codec : Codec α) : Prop :=
  ∀ (value : α) (depth : Nat), (codec.write value).nesting ≤ depth →
    codec.read depth (codec.write value) = .ok value

/-- Writes values of another type as values of this one. -/
def map (codec : Codec α) (make : α → β) (view : β → α) : Codec β where
  read depth document := (codec.read depth document).map make
  write value := codec.write (view value)

theorem Faithful.map {codec : Codec α} (faithful : codec.Faithful) {make : α → β} {view : β → α}
    (inverse : ∀ value, make (view value) = value) : (codec.map make view).Faithful := by
  intro value depth fits
  simp only [Codec.map] at fits ⊢
  rw [faithful _ _ fits, Except.map, inverse]

/-- Signed 64-bit integers. A literal with a fraction or an exponent is no integer. -/
def int64 : Codec Int64 where
  read _ document :=
    match document with
    | .number n =>
      match n.integer?.bind Text.int64? with
      | some i => .ok i
      | none => .error (unexpected (.number n))
    | document => .error (unexpected document)
  write i := .ofInt i.toInt

/-- The double of a number literal: an integer literal is rounded once. -/
def doubleOf? (n : Numeral) : Option Double :=
  match n.integer? with
  | some i => some (.ofInt i)
  | none => n.real?

/-- Double precision numbers, written as integers or not. -/
def double : Codec Double where
  read _ document :=
    match document with
    | .number n =>
      match doubleOf? n with
      | some x => .ok x
      | none => .error .malformed
    | document => .error (unexpected document)
  write x := (Value.real x).write

def bool : Codec Bool where
  read _ document :=
    match document with
    | .bool b => .ok b
    | document => .error (unexpected document)
  write := .bool

def text : Codec String where
  read _ document :=
    match document with
    | .string (some text) => .ok text
    | document => .error (unexpected document)
  write := .ofString

def textual (parse : String → Option α) (print : α → String) : Codec α where
  read depth document := do
    match parse (← text.read depth document) with
    | some value => .ok value
    | none => .error .mismatch
  write value := .ofString (print value)

/-- Values that may be absent, which is written as null. -/
def option (codec : Codec α) : Codec (Option α) where
  read depth document :=
    match document with
    | .null => .ok none
    | document => (codec.read depth document).map some
  write
    | none => .null
    | some value => codec.write value

def list (codec : Codec α) : Codec (List α) where
  read depth document :=
    match document, depth with
    | .array _, 0 => .error .malformed
    | .array items, depth + 1 => items.mapM (codec.read depth)
    | document, _ => .error (unexpected document)
  write values := .array (values.map codec.write)

/-- Pairs of values of one type, written as an array of two. -/
def pair (codec : Codec α) : Codec (α × α) where
  read depth document :=
    match document, depth with
    | .array _, 0 => .error .malformed
    | .array (first :: rest), depth + 1 => do
      let first ← codec.read depth first
      match rest with
      | [] => .error .mismatch
      | second :: more =>
        let second ← codec.read depth second
        if more.isEmpty then return (first, second) else .error .malformed
    | document, _ => .error (unexpected document)
  write pair := .array [codec.write pair.1, codec.write pair.2]

def readEntry (codec : Codec α) (depth : Nat) (member : Member) :
    Except Flaw (String × α) :=
  match member.1 with
  | none => .error .malformed
  | some name => do return (name, ← codec.read depth member.2)

/-- Tables, written as objects; of members with one name the last one counts. -/
def table (codec : Codec α) : Codec (Table α) where
  read depth document :=
    match document, depth with
    | .object _, 0 => .error .malformed
    | .object members, depth + 1 => do
      return .ofEntries (← members.mapM (readEntry codec depth))
    | document, _ => .error (unexpected document)
  write table := .ofMembers (table.entries.map fun (name, value) => (name, codec.write value))

def value : Codec Value where
  read := Value.read
  write := Value.write

def decode (codec : Codec α) (text : String) : Except Flaw α :=
  match parse? text with
  | some document => codec.read nestingLimit document
  | none => .error .malformed

def encode (codec : Codec α) (value : α) : String := (codec.write value).compact

end Codec

end Quartermaster.Json

import Quartermaster.Json.Numeral

/-!
JSON documents. A document keeps what was written: number literals, the order of members and
repeated names. What a document means is decided by those who read a value from it.
-/

namespace Quartermaster

/--
A JSON document. A string is `none` if an escape in it names half of a surrogate pair alone, so
that it is no text.
-/
inductive Json
  | null
  | bool (value : Bool)
  | number (literal : Json.Numeral)
  | string (text : Option String)
  | array (items : List Json)
  | object (members : List (Option String × Json))

namespace Json

abbrev Member := Option String × Json

instance : Inhabited Json := ⟨.null⟩

def ofString (text : String) : Json := .string (some text)

def ofInt (i : Int) : Json := .number (.ofInt i)

def ofMembers (members : List (String × Json)) : Json :=
  .object (members.map fun (name, value) => (some name, value))

/-- Arrays and objects that are open at once at the deepest place. -/
def nesting : Json → Nat
  | .array items => nestingItems items + 1
  | .object members => nestingMembers members + 1
  | _ => 0
where
  nestingItems : List Json → Nat
    | [] => 0
    | item :: rest => max (nesting item) (nestingItems rest)
  nestingMembers : List (Option String × Json) → Nat
    | [] => 0
    | (_, value) :: rest => max (nesting value) (nestingMembers rest)

end Json

end Quartermaster

import Quartermaster.Json.Token

/-!
JSON text as documents: reading by one pass over the tokens with the open containers on a stack,
writing as the tokens of a document.
-/

namespace Quartermaster.Json

/-- A container that is still open, with what it holds so far, the latest first. -/
inductive Open
  | array (items : List Json)
  | object (members : List Member) (name : Option String)

inductive Mode
  | value
  | firstItem
  | firstName (members : List Member)
  | name (members : List Member)
  | colon (members : List Member) (name : Option String)
  | after (value : Json)

/-- Reads tokens up to the end of the document, with the open containers on a stack. -/
def build? : Mode → List Open → List Token → Option Json
  | .after value, [], [] => some value
  | .after value, .array items :: stack, .comma :: rest =>
    build? .value (.array (value :: items) :: stack) rest
  | .after value, .array items :: stack, .closeArray :: rest =>
    build? (.after (.array (value :: items).reverse)) stack rest
  | .after value, .object members name :: stack, .comma :: rest =>
    build? (.name ((name, value) :: members)) stack rest
  | .after value, .object members name :: stack, .closeObject :: rest =>
    build? (.after (.object ((name, value) :: members).reverse)) stack rest
  | .firstItem, stack, .closeArray :: rest => build? (.after (.array [])) stack rest
  | .firstName _, stack, .closeObject :: rest => build? (.after (.object [])) stack rest
  | .firstName members, stack, .string name :: rest => build? (.colon members name) stack rest
  | .name members, stack, .string name :: rest => build? (.colon members name) stack rest
  | .colon members name, stack, .colon :: rest =>
    build? .value (.object members name :: stack) rest
  | mode, stack, token :: rest =>
    match mode with
    | .value | .firstItem =>
      let stack := match mode with
        | .firstItem => .array [] :: stack
        | _ => stack
      match token with
      | .null => build? (.after .null) stack rest
      | .bool b => build? (.after (.bool b)) stack rest
      | .number n => build? (.after (.number n)) stack rest
      | .string s => build? (.after (.string s)) stack rest
      | .openArray => build? .firstItem stack rest
      | .openObject => build? (.firstName []) stack rest
      | _ => none
    | _ => none
  | _, _, [] => none

def parse? (text : String) : Option Json :=
  (tokens? text.toList).bind (build? .value [])

def tokens : Json → List Token
  | .null => [.null]
  | .bool b => [.bool b]
  | .number n => [.number n]
  | .string s => [.string s]
  | .array items => .openArray :: tokensOfItems items ++ [.closeArray]
  | .object members => .openObject :: tokensOfMembers members ++ [.closeObject]
where
  tokensOfItems : List Json → List Token
    | [] => []
    | [item] => tokens item
    | item :: rest => tokens item ++ .comma :: tokensOfItems rest
  tokensOfMembers : List (Option String × Json) → List Token
    | [] => []
    | [(name, value)] => .string name :: .colon :: tokens value
    | (name, value) :: rest =>
      .string name :: .colon :: tokens value ++ .comma :: tokensOfMembers rest

def compact (document : Json) : String :=
  String.ofList (document.tokens.flatMap Token.text)

/-- The text of a document on lines, two blanks deeper in every container. -/
def pretty (document : Json) : String :=
  String.ofList (lines 0 document)
where
  newLine (depth : Nat) : List Char := '\n' :: List.replicate (2 * depth) ' '
  lines (depth : Nat) : Json → List Char
    | .array [] => ['[', ']']
    | .object [] => ['\x7b', '\x7d']
    | .array items => '[' :: itemLines (depth + 1) items ++ newLine depth ++ [']']
    | .object members =>
      '\x7b' :: memberLines (depth + 1) members ++ newLine depth ++ ['\x7d']
    | document => document.tokens.flatMap Token.text
  itemLines (depth : Nat) : List Json → List Char
    | [] => []
    | [item] => newLine depth ++ lines depth item
    | item :: rest => newLine depth ++ lines depth item ++ ',' :: itemLines depth rest
  memberLines (depth : Nat) : List (Option String × Json) → List Char
    | [] => []
    | [(name, value)] => newLine depth ++ quote name ++ ':' :: ' ' :: lines depth value
    | (name, value) :: rest =>
      newLine depth ++ quote name ++ ':' :: ' ' :: lines depth value ++
        ',' :: memberLines depth rest

end Quartermaster.Json

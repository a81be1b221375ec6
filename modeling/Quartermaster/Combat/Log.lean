import Quartermaster.Json.Fields

/-!
Analysed combat logs. Besides its own fields a log keeps every member that it does not know, so
that nothing the backend says is lost.
-/

namespace Quartermaster.Combat

open Json (Codec Fields Flaw Numbered Outcome Value)

structure DamageEntry where
  name : String
  damage : Double
  count : Int64
  deriving DecidableEq

namespace DamageEntry

def fields : Fields DamageEntry DamageEntry :=
  Fields.done DamageEntry.mk
    |>.required "name" (·.name) .text
    |>.defaulted "damage" (·.damage) .double .zero
    |>.defaulted "count" (·.count) .int64 0

def codec : Codec DamageEntry := fields.codec

end DamageEntry

structure Log where
  databaseId : Option Int64
  characterName : Option String
  start : Option String
  stop : Option String
  damageDone : List DamageEntry
  damageTaken : List DamageEntry
  /-- The members that are no fields of a log. -/
  others : Table Value

namespace Log

/-- The fields of a log, short of the other members. -/
def fields : Fields Log (Table Value → Log) :=
  Fields.done Log.mk
    |>.optional "db_id" (·.databaseId) .int64
    |>.optional "character_name" (·.characterName) .text
    |>.optional "start" (·.start) .text
    |>.optional "end" (·.stop) .text
    |>.defaulted "damage_done" (·.damageDone) DamageEntry.codec.list []
    |>.defaulted "damage_taken" (·.damageTaken) DamageEntry.codec.list []

def readOthers (depth : Nat) : Numbered → Outcome (List (String × Value))
  | [] => .read []
  | (position, some name, document) :: rest =>
    if name ∈ fields.names then readOthers depth rest
    else
      match Value.read depth document with
      | .error flaw => .flawed position flaw
      | .ok value => (readOthers depth rest).map ((name, value) :: ·)
  | (position, none, _) :: _ => .flawed position .malformed

def readObject (depth : Nat) (members : List Json.Member) : Except Flaw Log :=
  let members := Json.numbered members
  let others := (readOthers depth members).map Table.ofEntries
  ((fields.readNamed depth members).apply others).toExcept

/-- Logs in documents: objects only, whose own fields come first when written. -/
def codec : Codec Log where
  read depth document :=
    match document, depth with
    | .object _, 0 => .error .malformed
    | .object members, depth + 1 => readObject depth members
    | document, _ => .error (Json.unexpected document)
  write log :=
    .ofMembers (fields.write log ++
      log.others.entries.map fun (name, value) => (name, value.write))

end Log

end Quartermaster.Combat

import Quartermaster.Identifier
import Quartermaster.Json.Fields

/-!
Characters: the profile of a user's primary character, and a pilot by name.
-/

namespace Quartermaster

open Json (Codec Fields)

structure CharacterProfile where
  userId : Option UserId
  characterId : CharacterId
  characterName : String
  corporationId : Option Int64
  corporationName : Option String
  deriving DecidableEq, Repr

namespace CharacterProfile

def fields : Fields CharacterProfile CharacterProfile :=
  Fields.done CharacterProfile.mk
    |>.optional "user_id" (·.userId) Identifier.codec
    |>.required "character_id" (·.characterId) Identifier.codec
    |>.required "character_name" (·.characterName) .text
    |>.optional "corporation_id" (·.corporationId) .int64
    |>.optional "corporation_name" (·.corporationName) .text

def codec : Codec CharacterProfile := fields.codec

end CharacterProfile

structure Pilot where
  id : CharacterId
  name : String
  deriving DecidableEq, Repr

namespace Pilot

def fields : Fields Pilot Pilot :=
  Fields.done Pilot.mk
    |>.required "character_id" (·.id) Identifier.codec
    |>.required "character_name" (·.name) .text

def codec : Codec Pilot := fields.codec

end Pilot

end Quartermaster

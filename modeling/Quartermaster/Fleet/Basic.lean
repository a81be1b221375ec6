import Quartermaster.Calendar.Timestamp
import Quartermaster.Identifier
import Quartermaster.Json.Fields

/-!
Fleets as the backend describes them.
-/

namespace Quartermaster

open Calendar (Instant)
open Json (Codec Fields)

namespace Fleet

/-- The time during which a fleet is tracked; without an end it still is. -/
structure Tracking where
  id : Option Int64
  startTime : Instant
  endTime : Option Instant
  isRegistered : Bool
  deriving DecidableEq

namespace Tracking

def fields : Fields Tracking Tracking :=
  Fields.done Tracking.mk
    |>.optional "id" (·.id) .int64
    |>.required "start_time" (·.startTime) Instant.codec
    |>.optional "end_time" (·.endTime) Instant.codec
    |>.defaulted "is_registered" (·.isRegistered) .bool false

def codec : Codec Tracking := fields.codec

end Tracking

structure Summary where
  id : FleetId
  audience : String
  deriving DecidableEq, Repr

namespace Summary

def fields : Fields Summary Summary :=
  Fields.done Summary.mk
    |>.required "id" (·.id) Identifier.codec
    |>.required "audience" (·.audience) .text

def codec : Codec Summary := fields.codec

end Summary

structure Member where
  characterId : CharacterId
  characterName : String
  shipTypeId : ShipTypeId
  shipTypeName : String
  solarSystemId : SolarSystemId
  solarSystemName : String
  deriving DecidableEq, Repr

namespace Member

def fields : Fields Member Member :=
  Fields.done Member.mk
    |>.required "character_id" (·.characterId) Identifier.codec
    |>.required "character_name" (·.characterName) .text
    |>.required "ship_type_id" (·.shipTypeId) Identifier.codec
    |>.required "ship_type_name" (·.shipTypeName) .text
    |>.required "solar_system_id" (·.solarSystemId) Identifier.codec
    |>.required "solar_system_name" (·.solarSystemName) .text

def codec : Codec Member := fields.codec

end Member

structure Users where
  fleetId : FleetId
  userIds : List UserId
  deriving DecidableEq, Repr

namespace Users

def fields : Fields Users Users :=
  Fields.done Users.mk
    |>.required "fleet_id" (·.fleetId) Identifier.codec
    |>.required "user_ids" (·.userIds) Identifier.codec.list

def codec : Codec Users := fields.codec

end Users

end Fleet

structure Fleet where
  id : FleetId
  description : String
  audience : String
  doctrineId : Option DoctrineId
  commanderId : Option UserId
  location : String
  startTime : Instant
  type : String
  tracking : Option Fleet.Tracking
  status : Option String
  disableMotd : Bool
  deriving DecidableEq

namespace Fleet

def fields : Fields Fleet Fleet :=
  Fields.done Fleet.mk
    |>.required "id" (·.id) Identifier.codec
    |>.defaulted "description" (·.description) .text ""
    |>.required "audience" (·.audience) .text
    |>.optional "doctrine_id" (·.doctrineId) Identifier.codec
    |>.optional "fleet_commander" (·.commanderId) Identifier.codec
    |>.defaulted "location" (·.location) .text ""
    |>.required "start_time" (·.startTime) Instant.codec
    |>.required "type" (·.type) .text
    |>.optional "tracking" (·.tracking) Tracking.codec
    |>.optional "status" (·.status) .text
    |>.defaulted "disable_motd" (·.disableMotd) .bool false

def codec : Codec Fleet := fields.codec

/-- The user who commands the fleet; an identifier that is not positive names no one. -/
def commander? (fleet : Fleet) : Option UserId :=
  fleet.commanderId.filter fun id => 0 < id.number

end Fleet

end Quartermaster

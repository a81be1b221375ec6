import Quartermaster.Character
import Quartermaster.Doctrine
import Quartermaster.Fleet.Basic
import Quartermaster.Grouping
import Quartermaster.Phrase

/-!
Fleets as they are shown: with names for identifiers, and their members grouped by ship or by
solar system.
-/

namespace Quartermaster.Fleet

open Calendar (Instant)
open Json (Codec Fields)

structure Listing where
  id : FleetId
  description : String
  audience : String
  doctrineId : Option DoctrineId
  commanderId : CharacterId
  commanderName : String
  location : String
  startTime : Instant
  type : String
  tracking : Option Tracking
  status : Option String
  deriving DecidableEq

namespace Listing

def fields : Fields Listing Listing :=
  Fields.done Listing.mk
    |>.required "id" (·.id) Identifier.codec
    |>.required "description" (·.description) .text
    |>.required "audience" (·.audience) .text
    |>.nullable "doctrine_id" (·.doctrineId) Identifier.codec
    |>.required "fleet_commander_id" (·.commanderId) Identifier.codec
    |>.required "fleet_commander_name" (·.commanderName) .text
    |>.required "location" (·.location) .text
    |>.required "start_time" (·.startTime) Instant.codec
    |>.required "fleet_type" (·.type) .text
    |>.nullable "tracking" (·.tracking) Tracking.codec
    |>.nullable "status" (·.status) .text

def codec : Codec Listing := fields.codec

end Listing

structure Detail where
  id : FleetId
  description : String
  commanderId : CharacterId
  commanderName : String
  location : String
  startTime : Instant
  type : String
  doctrine : Option Doctrine
  tracking : Option Tracking
  audience : String
  disableMotd : Bool
  status : Option String
  deriving DecidableEq

namespace Detail

def fields : Fields Detail Detail :=
  Fields.done Detail.mk
    |>.required "id" (·.id) Identifier.codec
    |>.required "description" (·.description) .text
    |>.required "fleet_commander_id" (·.commanderId) Identifier.codec
    |>.required "fleet_commander_name" (·.commanderName) .text
    |>.required "location" (·.location) .text
    |>.required "start_time" (·.startTime) Instant.codec
    |>.required "fleet_type" (·.type) .text
    |>.nullable "doctrine" (·.doctrine) Doctrine.codec
    |>.nullable "tracking" (·.tracking) Tracking.codec
    |>.required "audience" (·.audience) .text
    |>.required "disable_motd" (·.disableMotd) .bool
    |>.nullable "status" (·.status) .text

def codec : Codec Detail := fields.codec

end Detail

structure ShipGroup where
  shipTypeId : ShipTypeId
  shipTypeName : String
  members : List Pilot
  deriving DecidableEq, Repr

namespace ShipGroup

def fields : Fields ShipGroup ShipGroup :=
  Fields.done ShipGroup.mk
    |>.required "ship_type_id" (·.shipTypeId) Identifier.codec
    |>.required "ship_type_name" (·.shipTypeName) .text
    |>.required "members" (·.members) Pilot.codec.list

def codec : Codec ShipGroup := fields.codec

end ShipGroup

def jumpsCodec : Codec UInt32 where
  read _ document :=
    match document with
    | .number n =>
      match n.integer? with
      | some i =>
        if 0 ≤ i ∧ i < UInt32.size then .ok (UInt32.ofNat i.toNat) else .error .mismatch
      | none => .error (Json.unexpected (.number n))
    | document => .error (Json.unexpected document)
  write jumps := .ofInt jumps.toNat

structure SystemGroup where
  solarSystemId : SolarSystemId
  solarSystemName : String
  sunTypeId : Option Int64
  jumps : Option UInt32
  members : List Pilot
  deriving DecidableEq

namespace SystemGroup

def fields : Fields SystemGroup SystemGroup :=
  Fields.done SystemGroup.mk
    |>.required "solar_system_id" (·.solarSystemId) Identifier.codec
    |>.required "solar_system_name" (·.solarSystemName) .text
    |>.nullable "sun_type_id" (·.sunTypeId) .int64
    |>.nullable "jumps" (·.jumps) jumpsCodec
    |>.required "members" (·.members) Pilot.codec.list

def codec : Codec SystemGroup := fields.codec

end SystemGroup

/-! ### From fleets to views -/

def Member.pilot (member : Member) : Pilot := ⟨member.characterId, member.characterName⟩

/-- The character that stands for no one. -/
def nobody : CharacterId := ⟨0⟩

def listing (locale : Locale) (fleet : Fleet) (profile : Option CharacterProfile) : Listing where
  id := fleet.id
  description := fleet.description
  audience := fleet.audience
  doctrineId := fleet.doctrineId
  commanderId := (profile.map (·.characterId)).getD nobody
  commanderName := (profile.map (·.characterName)).getD (Phrase.notAvailable.text locale)
  location := fleet.location
  startTime := fleet.startTime
  type := fleet.type
  tracking := fleet.tracking
  status := fleet.status

def detail (locale : Locale) (fleet : Fleet) (profile : Option CharacterProfile)
    (doctrine : Option Doctrine) : Detail where
  id := fleet.id
  description := fleet.description
  commanderId := (profile.map (·.characterId)).getD nobody
  commanderName := (profile.map (·.characterName)).getD (Phrase.unknownCharacter.text locale)
  location := fleet.location
  startTime := fleet.startTime
  type := fleet.type
  doctrine := doctrine
  tracking := fleet.tracking
  audience := fleet.audience
  disableMotd := fleet.disableMotd
  status := fleet.status

/-- When a fleet starts of which nothing is said: the beginning of 2100. -/
def farFuture : Instant :=
  ⟨⟨2100, 1, 1, by decide⟩, ⟨0, 0, 0, 0, by decide⟩⟩

def Summary.listing (locale : Locale) (summary : Summary) : Listing where
  id := summary.id
  description := ""
  audience := summary.audience
  doctrineId := none
  commanderId := nobody
  commanderName := Phrase.notAvailable.text locale
  location := ""
  startTime := farFuture
  type := ""
  tracking := none
  status := none

/-- The members by type of ship, named as its first pilot names it. -/
def shipGroups (members : List Member) : List ShipGroup :=
  (groupBy Member.shipTypeId members).map fun group =>
    ⟨group.key, group.first.shipTypeName, group.items.map Member.pilot⟩

end Quartermaster.Fleet

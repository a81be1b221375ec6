import Quartermaster.Json.Codec

/-!
Identifiers of what the platform keeps. An identifier knows what kind of thing it names, so that
one kind is never taken for another.
-/

namespace Quartermaster

inductive Kind
  | location
  | solarSystem
  | shipType
  | character
  | user
  | fleet
  | doctrine
  | route
  | routeOption
  deriving DecidableEq, Repr

structure Identifier (kind : Kind) where
  number : Int64
  deriving DecidableEq, Repr

abbrev LocationId := Identifier .location
abbrev SolarSystemId := Identifier .solarSystem
abbrev ShipTypeId := Identifier .shipType
abbrev CharacterId := Identifier .character
abbrev UserId := Identifier .user
abbrev FleetId := Identifier .fleet
abbrev DoctrineId := Identifier .doctrine
abbrev RouteId := Identifier .route
abbrev RouteOptionId := Identifier .routeOption

namespace Identifier

instance : Inhabited (Identifier kind) := ⟨⟨0⟩⟩

def text (id : Identifier kind) : String := Text.int64 id.number

def toInt (id : Identifier kind) : Int := id.number.toInt

def ofInt (i : Int) : Identifier kind := ⟨Int64.ofInt i⟩

def codec : Json.Codec (Identifier kind) := Json.Codec.int64.map (⟨·⟩) number

end Identifier

end Quartermaster

import Quartermaster.Identifier
import Quartermaster.Json.Fields

/-!
Freight routes between two places, the sizes they are offered in and what they cost.
-/

namespace Quartermaster.Freight

open Json (Codec Fields)

structure Place where
  locationId : LocationId
  name : String
  shortName : String
  deriving DecidableEq, Repr

namespace Place

def fields : Fields Place Place :=
  Fields.done Place.mk
    |>.required "location_id" (·.locationId) Identifier.codec
    |>.required "name" (·.name) .text
    |>.required "short_name" (·.shortName) .text

def codec : Codec Place := fields.codec

end Place

structure Route where
  id : RouteId
  origin : Place
  destination : Place
  bidirectional : Bool
  deriving DecidableEq, Repr

namespace Route

/-- The fields of a route. The backend spells the origin without its second letter i. -/
def fields : Fields Route Route :=
  Fields.done Route.mk
    |>.required "route_id" (·.id) Identifier.codec
    |>.required "orgin" (·.origin) Place.codec
    |>.required "destination" (·.destination) Place.codec
    |>.required "bidirectional" (·.bidirectional) .bool

def codec : Codec Route := fields.codec

end Route

structure RouteOption where
  id : RouteOptionId
  maximumVolume : Int64
  deriving DecidableEq, Repr

namespace RouteOption

def fields : Fields RouteOption RouteOption :=
  Fields.done RouteOption.mk
    |>.required "route_option_id" (·.id) Identifier.codec
    |>.required "maximum_m3" (·.maximumVolume) .int64

def codec : Codec RouteOption := fields.codec

end RouteOption

structure RouteCost where
  routeId : Int64
  cost : Int64
  deriving DecidableEq, Repr

namespace RouteCost

def fields : Fields RouteCost RouteCost :=
  Fields.done RouteCost.mk
    |>.required "route_id" (·.routeId) .int64
    |>.required "cost" (·.cost) .int64

def codec : Codec RouteCost := fields.codec

end RouteCost

def laneKey (origin destination : LocationId) : String :=
  origin.text ++ "-" ++ destination.text

end Quartermaster.Freight

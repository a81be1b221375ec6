import Quartermaster.Freight.Route
import Quartermaster.Quantity.Grouped
import Quartermaster.Table

/-!
The tables of the freight calculator. A lane is a route in one of its directions; the tables hold
what is known of a lane under its key, and of lanes with one key what is known of the last.
-/

namespace Quartermaster

open Json (Codec Fields)
open Quantity (GroupingError)

structure Choice (α : Type) where
  label : String
  value : α
  deriving DecidableEq, Repr

namespace Choice

def fields (codec : Codec α) : Fields (Choice α) (Choice α) :=
  Fields.done Choice.mk
    |>.required "label" (·.label) .text
    |>.required "value" (·.value) codec

def codec (codec : Codec α) : Codec (Choice α) := (fields codec).codec

end Choice

namespace Freight

/-- A route in one direction, with the sizes it is offered in. -/
structure Lane where
  routeId : RouteId
  origin : Place
  destination : Place
  options : List RouteOption
  deriving DecidableEq, Repr

/-- The lanes of a route: from its origin, and back if it is travelled both ways. -/
def Route.lanes (route : Route) (options : List RouteOption) : List Lane :=
  let there : Lane := ⟨route.id, route.origin, route.destination, options⟩
  let back : Lane := ⟨route.id, route.destination, route.origin, options⟩
  if route.bidirectional then [there, back] else [there]

namespace Lane

def key (lane : Lane) : String := laneKey lane.origin.locationId lane.destination.locationId

def choice (lane : Lane) : Choice String :=
  ⟨lane.origin.shortName ++ " → " ++ lane.destination.shortName, lane.key⟩

/-- The sizes of a lane to choose, each labelled with its volume. -/
def sizes (locale : Locale) (lane : Lane) : Except GroupingError (List (Choice RouteOptionId)) :=
  lane.options.mapM fun option =>
    (Quantity.grouped locale (.ofInt option.maximumVolume.toInt)).map (⟨·, option.id⟩)

def stations (lane : Lane) : String × String := (lane.origin.name, lane.destination.name)

end Lane

structure Calculator where
  routes : List (Choice String)
  sizes : Table (List (Choice RouteOptionId))
  routeIds : Table RouteId
  stations : Table (String × String)
  /-- The routes whose sizes are not known. -/
  omitted : List RouteId
  deriving DecidableEq

namespace Calculator

def fields : Fields Calculator Calculator :=
  Fields.done Calculator.mk
    |>.required "routes" (·.routes) (Choice.codec .text).list
    |>.required "sizes" (·.sizes) (Choice.codec Identifier.codec).list.table
    |>.required "route_translation" (·.routeIds) (Codec.table Identifier.codec)
    |>.required "stations" (·.stations) Codec.text.pair.table
    |>.required "omitted_route_ids" (·.omitted) Identifier.codec.list

def codec : Codec Calculator := fields.codec

def lanes (routes : List (Route × Option (List RouteOption))) : List Lane :=
  routes.flatMap fun (route, options) =>
    match options with
    | some options => route.lanes options
    | none => []

def unknown (routes : List (Route × Option (List RouteOption))) : List RouteId :=
  routes.filterMap fun (route, options) => if options.isNone then some route.id else none

def ofLanes (lanes : List Lane) (sizes : List (List (Choice RouteOptionId)))
    (omitted : List RouteId) : Calculator where
  routes := lanes.map Lane.choice
  sizes := .ofEntries ((lanes.map Lane.key).zip sizes)
  routeIds := .ofEntries (lanes.map fun lane => (lane.key, lane.routeId))
  stations := .ofEntries (lanes.map fun lane => (lane.key, lane.stations))
  omitted := omitted

/-- The tables of routes, each with its sizes if they are known and can be written. -/
def ofRoutes (locale : Locale) (routes : List (Route × Option (List RouteOption))) :
    Except GroupingError Calculator := do
  let sizes ← (lanes routes).mapM (Lane.sizes locale)
  return ofLanes (lanes routes) sizes (unknown routes)

end Calculator

end Freight

end Quartermaster

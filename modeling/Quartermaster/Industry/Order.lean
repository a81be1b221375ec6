import Quartermaster.Calendar.Timestamp
import Quartermaster.Grouping
import Quartermaster.Identifier
import Quartermaster.Json.Fields

/-!
Industry orders, and the orders of each location.

Locations stand in the order in which an object with their identifiers as names lists them: those
that look like an index of an array come first by number, all others as they were first seen
(`LocationOrders.arrange`).
-/

namespace Quartermaster.Industry

open Calendar (Instant)
open Json (Codec Fields)

structure Location where
  id : LocationId
  name : String
  deriving DecidableEq, Repr

namespace Location

def fields : Fields Location Location :=
  Fields.done Location.mk
    |>.required "location_id" (·.id) Identifier.codec
    |>.required "location_name" (·.name) .text

def codec : Codec Location := fields.codec

end Location

structure OrderItem where
  typeId : Int64
  typeName : String
  quantity : Int64
  deriving DecidableEq, Repr

namespace OrderItem

def fields : Fields OrderItem OrderItem :=
  Fields.done OrderItem.mk
    |>.required "eve_type_id" (·.typeId) .int64
    |>.required "eve_type_name" (·.typeName) .text
    |>.required "quantity" (·.quantity) .int64

def codec : Codec OrderItem := fields.codec

end OrderItem

structure Assignee where
  id : CharacterId
  name : String
  deriving DecidableEq, Repr

namespace Assignee

def fields : Fields Assignee Assignee :=
  Fields.done Assignee.mk
    |>.required "character_id" (·.id) Identifier.codec
    |>.required "character_name" (·.name) .text

def codec : Codec Assignee := fields.codec

end Assignee

structure Order where
  id : Int64
  characterId : CharacterId
  characterName : String
  createdAt : Instant
  fulfilledAt : Option Instant
  neededBy : Option String
  location : Option Location
  items : List OrderItem
  assignees : List Assignee
  deriving DecidableEq

namespace Order

def fields : Fields Order Order :=
  Fields.done Order.mk
    |>.required "id" (·.id) .int64
    |>.required "character_id" (·.characterId) Identifier.codec
    |>.required "character_name" (·.characterName) .text
    |>.required "created_at" (·.createdAt) Instant.codec
    |>.optional "fulfilled_at" (·.fulfilledAt) Instant.codec
    |>.optional "needed_by" (·.neededBy) .text
    |>.optional "location" (·.location) Location.codec
    |>.defaulted "items" (·.items) OrderItem.codec.list []
    |>.defaulted "assigned_to" (·.assignees) Assignee.codec.list []

def codec : Codec Order := fields.codec

end Order

structure OrderSummary where
  id : Int64
  characterId : CharacterId
  characterName : String
  createdAt : Instant
  neededBy : Option String
  deriving DecidableEq

namespace OrderSummary

def fields : Fields OrderSummary OrderSummary :=
  Fields.done OrderSummary.mk
    |>.required "id" (·.id) .int64
    |>.required "character_id" (·.characterId) Identifier.codec
    |>.required "character_name" (·.characterName) .text
    |>.required "created_at" (·.createdAt) Instant.codec
    |>.optional "needed_by" (·.neededBy) .text

def codec : Codec OrderSummary := fields.codec

end OrderSummary

structure FlatSummary where
  items : Option (List OrderSummary)
  deriving DecidableEq

namespace FlatSummary

def fields : Fields FlatSummary FlatSummary :=
  Fields.done FlatSummary.mk
    |>.optional "items" (·.items) OrderSummary.codec.list

def codec : Codec FlatSummary := fields.codec

end FlatSummary

/-! ### Orders by location -/

structure Producer where
  id : CharacterId
  name : String
  deriving DecidableEq, Repr

namespace Producer

def fields : Fields Producer Producer :=
  Fields.done Producer.mk
    |>.required "id" (·.id) Identifier.codec
    |>.required "name" (·.name) .text

def codec : Codec Producer := fields.codec

end Producer

structure LocatedOrder where
  id : Int64
  characterId : CharacterId
  characterName : String
  createdAt : Instant
  fulfilledAt : Option Instant
  location : Location
  neededBy : Option String
  items : List OrderItem
  producers : List Producer
  deriving DecidableEq

namespace LocatedOrder

def fields : Fields LocatedOrder LocatedOrder :=
  Fields.done LocatedOrder.mk
    |>.required "id" (·.id) .int64
    |>.required "character_id" (·.characterId) Identifier.codec
    |>.required "character_name" (·.characterName) .text
    |>.required "created_at" (·.createdAt) Instant.codec
    |>.nullable "fulfilled_at" (·.fulfilledAt) Instant.codec
    |>.required "location" (·.location) Location.codec
    |>.nullable "needed_by" (·.neededBy) .text
    |>.required "items" (·.items) OrderItem.codec.list
    |>.required "assigned_to" (·.producers) Producer.codec.list

def codec : Codec LocatedOrder := fields.codec

def ofOrder? (order : Order) : Option LocatedOrder :=
  order.location.map fun location =>
    { id := order.id
      characterId := order.characterId
      characterName := order.characterName
      createdAt := order.createdAt
      fulfilledAt := order.fulfilledAt
      location := location
      neededBy := order.neededBy
      items := order.items
      producers := order.assignees.map fun assignee => ⟨assignee.id, assignee.name⟩ }

end LocatedOrder

structure LocationOrders where
  locationId : LocationId
  locationName : String
  orders : List LocatedOrder
  deriving DecidableEq

namespace LocationOrders

def fields : Fields LocationOrders LocationOrders :=
  Fields.done LocationOrders.mk
    |>.required "location_id" (·.locationId) Identifier.codec
    |>.required "location_name" (·.locationName) .text
    |>.required "orders" (·.orders) LocatedOrder.codec.list

def codec : Codec LocationOrders := fields.codec

/-- The largest identifier that looks like an index of an array. -/
def largestIndex : Int64 := 4294967294

def isIndex (id : LocationId) : Bool := 0 ≤ id.number && id.number ≤ largestIndex

/-- Stands before another location, or does not care: indices by number, then all others. -/
def precedes (first second : LocationOrders) : Bool :=
  match isIndex first.locationId, isIndex second.locationId with
  | true, true => first.locationId.number ≤ second.locationId.number
  | true, false => true
  | false, true => false
  | false, false => true

/-- Brings locations into the order of an object with their identifiers as names. -/
def arrange (locations : List LocationOrders) : List LocationOrders :=
  locations.mergeSort precedes

/-- Groups the orders that have a location by it, named as the first of its orders names it. -/
def ofOrders (orders : List Order) : List LocationOrders :=
  let located := orders.filterMap LocatedOrder.ofOrder?
  arrange <| (groupBy (·.location.id) located).map fun group =>
    ⟨group.key, group.first.location.name, group.items⟩

end LocationOrders

end Quartermaster.Industry

import Quartermaster.Combat.Queries
import Quartermaster.Fleet.Queries
import Quartermaster.Freight.Queries
import Quartermaster.Industry.Queries
import Quartermaster.Market.Queries

/-!
Everything that can be asked of the platform, as data: the endpoints of its services one by one,
and the questions that take several of them.
-/

namespace Quartermaster

open Api (Endpoint Exchange Failure Platform)
open Quantity (GroupingError)

/-- Something to ask of the platform that is answered with an `α`. -/
inductive Call : Type → Type 1
  | backend {α : Type} (endpoint : Endpoint α) : Call α
  | routing {α : Type} (endpoint : Endpoint α) : Call α
  | characters (users : List UserId) : Call (List CharacterProfile)
  | character (user : UserId) : Call (Option CharacterProfile)
  | fleets (token : String) (upcoming : Bool) (now : Calendar.Instant) (locale : Locale) :
      Call (List Fleet.Listing)
  | publicFleets (upcoming : Bool) (locale : Locale) : Call (List Fleet.Listing)
  | fleet (token : String) (id : FleetId) (locale : Locale) : Call Fleet.Detail
  | fleetUsers (id : FleetId) : Call (List UserId)
  | membersBySystem (sunTypes : SunTypes) (members : List Fleet.Member)
      (staging : Option SolarSystemId) : Call (List Fleet.SystemGroup)
  | freightCalculator (locale : Locale) : Call (Except GroupingError Freight.Calculator)
  | freightContracts (history : Bool) : Call (List Freight.OriginContracts)
  | orderSummaries : Call (List Industry.OrderSummary)
  | summaryTrees : Call (List Industry.SummaryNode)
  | ordersByLocation : Call (List Industry.LocationOrders)

namespace Call

def run (platform : Platform) : Call α → Exchange Failure α
  | .backend endpoint => platform.ask endpoint
  | .routing endpoint => platform.askRouting endpoint
  | .characters users => Character.primaries platform users
  | .character user => Character.primary? platform user
  | .fleets token upcoming now locale => Fleet.listings platform token upcoming now locale
  | .publicFleets upcoming locale => Fleet.publicListings platform upcoming locale
  | .fleet token id locale => Fleet.detailById platform token id locale
  | .fleetUsers id => Fleet.userIds platform id
  | .membersBySystem sunTypes members staging =>
    Fleet.systemGroups platform sunTypes members staging
  | .freightCalculator locale => Freight.calculator platform locale
  | .freightContracts history => Freight.contractsByOrigin platform history
  | .orderSummaries => Industry.orderSummaries platform
  | .summaryTrees => Industry.summaryTrees platform
  | .ordersByLocation => Industry.ordersByLocation platform

/-- Writes an answer. Tables that could not be made are not written. -/
def write : Call α → α → Except GroupingError Json
  | .backend endpoint, answer => .ok (endpoint.answer.write answer)
  | .routing endpoint, answer => .ok (endpoint.answer.write answer)
  | .characters _, profiles => .ok (CharacterProfile.codec.list.write profiles)
  | .character _, profile => .ok (CharacterProfile.codec.option.write profile)
  | .fleets .., listings => .ok (Fleet.Listing.codec.list.write listings)
  | .publicFleets .., listings => .ok (Fleet.Listing.codec.list.write listings)
  | .fleet .., detail => .ok (Fleet.Detail.codec.write detail)
  | .fleetUsers _, users => .ok (Identifier.codec.list.write users)
  | .membersBySystem .., groups => .ok (Fleet.SystemGroup.codec.list.write groups)
  | .freightCalculator _, tables => tables.map Freight.Calculator.codec.write
  | .freightContracts _, contracts => .ok (Freight.OriginContracts.codec.list.write contracts)
  | .orderSummaries, summaries => .ok (Industry.OrderSummary.codec.list.write summaries)
  | .summaryTrees, trees => .ok (Industry.SummaryNode.codec.list.write trees)
  | .ordersByLocation, orders => .ok (Industry.LocationOrders.codec.list.write orders)

def document (platform : Platform) (call : Call α) :
    Exchange Failure (Except GroupingError Json) :=
  call.write <$> call.run platform

end Call

end Quartermaster

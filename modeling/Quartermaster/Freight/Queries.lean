import Quartermaster.Api.Platform
import Quartermaster.Freight.Calculator
import Quartermaster.Freight.Contract

/-!
What can be asked of the platform about freight.
-/

namespace Quartermaster.Freight

open Api (Endpoint Exchange Failure Platform)
open Http (Draft)
open Quantity (GroupingError)

namespace Endpoints

def routes : Endpoint (List Route) where
  label := "Error fetching freight routes"
  draft := .get "/api/freight/routes"
  explains := false
  answer := Route.codec.list

def routeOptions (route : RouteId) : Endpoint (List RouteOption) where
  label := "Error fetching freight route options"
  draft := .get ("/api/freight/" ++ route.text ++ "/options")
  explains := false
  answer := RouteOption.codec.list

def routeCost (route : RouteId) (option : RouteOptionId) (collateral : Int64) :
    Endpoint RouteCost where
  label := "Error fetching freight route cost"
  draft :=
    (Draft.get ("/api/freight/routes/" ++ route.text ++ "/options/" ++ option.text ++ "/cost"))
      |>.withQuery [("collateral", Text.int64 collateral)]
  explains := false
  answer := RouteCost.codec

def contracts (history : Bool) : Endpoint (List Contract) where
  label := "Error fetching freight contracts"
  draft := .get (if history then "/api/freight/contracts/history" else "/api/freight/contracts")
  explains := false
  answer := Contract.codec.list

def statistics : Endpoint (List TruckerStatistics) where
  label := "Error fetching freight contracts"
  draft := .get "/api/freight/character-statistics"
  explains := false
  answer := TruckerStatistics.codec.list

end Endpoints

/--
The tables of the freight calculator. The sizes of all routes are asked for together; a route whose
sizes are not answered is left out, and a listing that is not answered fails.
-/
def calculator (platform : Platform) (locale : Locale) :
    Exchange Failure (Except GroupingError Calculator) := do
  let routes ← platform.ask Endpoints.routes
  let options ← Exchange.settleAll <|
    routes.map fun route => platform.ask (Endpoints.routeOptions route.id)
  return Calculator.ofRoutes locale (routes.zip (options.map Except.toOption))

def contractsByOrigin (platform : Platform) (history : Bool) :
    Exchange Failure (List OriginContracts) := do
  let contracts ← platform.ask (Endpoints.contracts history)
  return OriginContracts.ofContracts contracts

end Quartermaster.Freight

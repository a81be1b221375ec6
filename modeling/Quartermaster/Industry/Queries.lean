import Quartermaster.Api.Platform
import Quartermaster.Industry.Order
import Quartermaster.Industry.SummaryNode

/-!
What can be asked of the platform about industry orders.
-/

namespace Quartermaster.Industry

open Api (Endpoint Exchange Failure Platform)
open Http (Draft)

namespace Endpoints

def orders : Endpoint (List Order) where
  label := "Error fetching industry orders"
  draft := (Draft.get "/api/industry/orders").withQuery [("with_location", Api.boolText true)]
  explains := false
  answer := Order.codec.list

def flatSummary : Endpoint FlatSummary where
  label := "Error fetching industry orders summary"
  draft := .get "/api/industry/orders/summary/flat"
  explains := false
  answer := FlatSummary.codec

def nestedSummary : Endpoint NestedSummary where
  label := "Error fetching industry orders summary"
  draft := .get "/api/industry/orders/summary/nested"
  explains := false
  answer := NestedSummary.codec

end Endpoints

/-- All orders, summed up; none if the backend names none. -/
def orderSummaries (platform : Platform) : Exchange Failure (List OrderSummary) := do
  let summary ← platform.ask Endpoints.flatSummary
  return summary.items.getD []

/-- All that has to be made; nothing if the backend names nothing. -/
def summaryTrees (platform : Platform) : Exchange Failure (List SummaryNode) := do
  let summary ← platform.ask Endpoints.nestedSummary
  return summary.roots.getD []

def ordersByLocation (platform : Platform) : Exchange Failure (List LocationOrders) := do
  let orders ← platform.ask Endpoints.orders
  return LocationOrders.ofOrders orders

end Quartermaster.Industry

import Quartermaster.Api.Platform
import Quartermaster.Market.Contract
import Quartermaster.Market.Expectation
import Quartermaster.Market.SellOrder

/-!
What can be asked of the platform about the market.
-/

namespace Quartermaster.Market.Endpoints

open Api (Endpoint)
open Http (Draft)

def contracts (location : LocationId) : Endpoint (List Contract) where
  label := "Error fetching contracts"
  draft := (Draft.get "/api/market/contracts").withQuery [("location_id", location.text)]
  explains := false
  answer := Contract.codec.list

def contract (expectation : Int64) : Endpoint Contract where
  label := "Error fetching contract"
  draft := .get ("/api/market/contracts/" ++ Text.int64 expectation)
  explains := false
  answer := Contract.codec

def createResponsibility (token : String) (expectation entity : Int64) : Endpoint Contract where
  label := "Error creating responsability"
  draft :=
    (Draft.post "/api/market/responsibilities" .json
      (Text.utf8 (ResponsibilityRequest.codec.encode ⟨expectation, entity⟩).toList))
      |>.withToken token
  explains := false
  answer := Contract.codec

def characters (token : String) : Endpoint (List Character) where
  label := "Error fetching market characters"
  draft := (Draft.get "/api/market/characters").withToken token
  explains := true
  answer := Character.codec.list

def corporations (token : String) : Endpoint (List Corporation) where
  label := "Error fetching market corporations"
  draft := (Draft.get "/api/market/corporations").withToken token
  explains := false
  answer := Corporation.codec.list

def expectations (token : String) : Endpoint (List Expectation) where
  label := "Error fetching market expectations"
  draft := (Draft.get "/api/market/expectations").withToken token
  explains := true
  answer := Expectation.codec.list

def stockedDoctrines : Endpoint (List StockedDoctrine) where
  label := "Error fetching market locations with doctrines"
  draft := .get "/api/doctrines/market/locations"
  explains := false
  answer := StockedDoctrine.codec.list

def sellOrders (location : Option LocationId) : Endpoint (List SellOrderLocation) where
  label := "Error fetching sell orders"
  draft :=
    match location with
    | some location =>
      (Draft.get "/api/market/sell-orders").withQuery [("location_id", location.text)]
    | none => .get "/api/market/sell-orders"
  explains := false
  answer := SellOrderLocation.codec.list

def expectationsByLocation : Endpoint (List LocationStock) where
  label := "Error fetching market expectations by location"
  draft := .get "/api/market/expectations/by-location"
  explains := false
  answer := LocationStock.codec.list

end Quartermaster.Market.Endpoints

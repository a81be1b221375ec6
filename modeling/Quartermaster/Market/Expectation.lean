import Quartermaster.Identifier
import Quartermaster.Json.Fields

/-!
How many fitted ships are expected to be on the market of a place.
-/

namespace Quartermaster.Market

open Json (Codec Fields)

/-- How many of a fitting should be on the market of a place. -/
structure Expectation where
  id : Int64
  fittingId : Int64
  fittingName : String
  locationId : LocationId
  locationName : String
  quantity : Int64
  deriving DecidableEq, Repr

namespace Expectation

def fields : Fields Expectation Expectation :=
  Fields.done Expectation.mk
    |>.required "expectation_id" (·.id) .int64
    |>.required "fitting_id" (·.fittingId) .int64
    |>.required "fitting_name" (·.fittingName) .text
    |>.required "location_id" (·.locationId) Identifier.codec
    |>.required "location_name" (·.locationName) .text
    |>.required "quantity" (·.quantity) .int64

def codec : Codec Expectation := fields.codec

end Expectation

structure StockedDoctrine where
  id : DoctrineId
  name : String
  locationIds : List LocationId
  fittingIds : List Int64
  deriving DecidableEq, Repr

namespace StockedDoctrine

def fields : Fields StockedDoctrine StockedDoctrine :=
  Fields.done StockedDoctrine.mk
    |>.required "doctrine_id" (·.id) Identifier.codec
    |>.required "doctrine_name" (·.name) .text
    |>.required "location_ids" (·.locationIds) Identifier.codec.list
    |>.defaulted "fitting_ids" (·.fittingIds) Codec.int64.list []

def codec : Codec StockedDoctrine := fields.codec

end StockedDoctrine

structure FittingStock where
  expectationId : Int64
  fittingId : Int64
  fittingName : String
  expectedQuantity : Int64
  currentQuantity : Int64
  deriving DecidableEq, Repr

namespace FittingStock

def fields : Fields FittingStock FittingStock :=
  Fields.done FittingStock.mk
    |>.required "expectation_id" (·.expectationId) .int64
    |>.required "fitting_id" (·.fittingId) .int64
    |>.required "fitting_name" (·.fittingName) .text
    |>.required "expected_quantity" (·.expectedQuantity) .int64
    |>.required "current_quantity" (·.currentQuantity) .int64

def codec : Codec FittingStock := fields.codec

end FittingStock

structure LocationStock where
  locationId : LocationId
  locationName : String
  expectations : List FittingStock
  deriving DecidableEq, Repr

namespace LocationStock

def fields : Fields LocationStock LocationStock :=
  Fields.done LocationStock.mk
    |>.required "location_id" (·.locationId) Identifier.codec
    |>.required "location_name" (·.locationName) .text
    |>.required "expectations" (·.expectations) FittingStock.codec.list

def codec : Codec LocationStock := fields.codec

end LocationStock

end Quartermaster.Market

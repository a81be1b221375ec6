import Quartermaster.Identifier
import Quartermaster.Json.Fields

/-!
Sell orders: what is sold at a place, how much of it, and at which price.
-/

namespace Quartermaster.Market

open Json (Codec Fields)

structure SellOrderItem where
  itemName : String
  typeId : Option Int64
  categoryId : Option Int64
  categoryName : String
  groupId : Option Int64
  groupName : String
  expectedQuantity : Int64
  currentQuantity : Int64
  fulfilled : Bool
  issuerIds : List Int64
  currentLowestPrice : Option Double
  baselinePrice : Option Double
  baselineSellPrice : Option Double
  baselineBuyPrice : Option Double
  baselineSplitPrice : Option Double
  deriving DecidableEq

namespace SellOrderItem

def fields : Fields SellOrderItem SellOrderItem :=
  Fields.done SellOrderItem.mk
    |>.required "item_name" (·.itemName) .text
    |>.nullable "type_id" (·.typeId) .int64
    |>.nullable "category_id" (·.categoryId) .int64
    |>.required "category_name" (·.categoryName) .text
    |>.nullable "group_id" (·.groupId) .int64
    |>.required "group_name" (·.groupName) .text
    |>.required "expected_quantity" (·.expectedQuantity) .int64
    |>.required "current_quantity" (·.currentQuantity) .int64
    |>.required "fulfilled" (·.fulfilled) .bool
    |>.defaulted "issuer_ids" (·.issuerIds) Codec.int64.list []
    |>.nullable "current_lowest_price" (·.currentLowestPrice) .double
    |>.nullable "baseline_price" (·.baselinePrice) .double
    |>.optional "baseline_sell_price" (·.baselineSellPrice) .double
    |>.optional "baseline_buy_price" (·.baselineBuyPrice) .double
    |>.optional "baseline_split_price" (·.baselineSplitPrice) .double

def codec : Codec SellOrderItem := fields.codec

end SellOrderItem

structure SellOrderLocation where
  locationId : LocationId
  locationName : String
  shortName : String
  isPriceBaseline : Bool
  items : List SellOrderItem
  deriving DecidableEq

namespace SellOrderLocation

def fields : Fields SellOrderLocation SellOrderLocation :=
  Fields.done SellOrderLocation.mk
    |>.required "location_id" (·.locationId) Identifier.codec
    |>.required "location_name" (·.locationName) .text
    |>.required "short_name" (·.shortName) .text
    |>.required "is_price_baseline" (·.isPriceBaseline) .bool
    |>.required "items" (·.items) SellOrderItem.codec.list

def codec : Codec SellOrderLocation := fields.codec

end SellOrderLocation

end Quartermaster.Market

import Quartermaster.Identifier
import Quartermaster.Json.Fields

/-!
Contracts that the market should offer, and who sees to them.
-/

namespace Quartermaster.Market

open Json (Codec Fields)

structure Responsibility where
  entityType : String
  entityId : Int64
  entityName : String
  deriving DecidableEq, Repr

namespace Responsibility

def fields : Fields Responsibility Responsibility :=
  Fields.done Responsibility.mk
    |>.required "entity_type" (·.entityType) .text
    |>.required "entity_id" (·.entityId) .int64
    |>.required "entity_name" (·.entityName) .text

def codec : Codec Responsibility := fields.codec

end Responsibility

structure DailyQuantity where
  date : String
  quantity : Int64
  deriving DecidableEq, Repr

namespace DailyQuantity

def fields : Fields DailyQuantity DailyQuantity :=
  Fields.done DailyQuantity.mk
    |>.required "date" (·.date) .text
    |>.required "quantity" (·.quantity) .int64

def codec : Codec DailyQuantity := fields.codec

end DailyQuantity

/-- A fitted ship that should be on contract at a place. -/
structure Contract where
  title : String
  fittingId : Int64
  structureId : Option Int64
  locationName : String
  desiredQuantity : Int64
  currentQuantity : Int64
  history : List DailyQuantity
  responsibilities : List Responsibility
  deriving DecidableEq, Repr

namespace Contract

def fields : Fields Contract Contract :=
  Fields.done Contract.mk
    |>.required "title" (·.title) .text
    |>.required "fitting_id" (·.fittingId) .int64
    |>.optional "structure_id" (·.structureId) .int64
    |>.required "location_name" (·.locationName) .text
    |>.required "desired_quantity" (·.desiredQuantity) .int64
    |>.required "current_quantity" (·.currentQuantity) .int64
    |>.defaulted "historical_quantity" (·.history) DailyQuantity.codec.list []
    |>.defaulted "responsibilities" (·.responsibilities) Responsibility.codec.list []

def codec : Codec Contract := fields.codec

end Contract

structure ResponsibilityRequest where
  expectationId : Int64
  entityId : Int64
  deriving DecidableEq, Repr

namespace ResponsibilityRequest

def fields : Fields ResponsibilityRequest ResponsibilityRequest :=
  Fields.done ResponsibilityRequest.mk
    |>.required "expectation_id" (·.expectationId) .int64
    |>.required "entity_id" (·.entityId) .int64

def codec : Codec ResponsibilityRequest := fields.codec

end ResponsibilityRequest

structure Character where
  id : CharacterId
  name : String
  deriving DecidableEq, Repr

namespace Character

def fields : Fields Character Character :=
  Fields.done Character.mk
    |>.required "character_id" (·.id) Identifier.codec
    |>.required "character_name" (·.name) .text

def codec : Codec Character := fields.codec

end Character

structure Corporation where
  id : Int64
  name : String
  deriving DecidableEq, Repr

namespace Corporation

def fields : Fields Corporation Corporation :=
  Fields.done Corporation.mk
    |>.required "corporation_id" (·.id) .int64
    |>.required "corporation_name" (·.name) .text

def codec : Codec Corporation := fields.codec

end Corporation

end Quartermaster.Market

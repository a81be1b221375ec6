import Quartermaster.Identifier
import Quartermaster.Grouping
import Quartermaster.Json.Fields

/-!
Freight contracts, grouped by where they start and where they end.
-/

namespace Quartermaster.Freight

open Json (Codec Fields)

structure Contract where
  id : Int64
  issuerId : Option Int64
  status : String
  startName : String
  endName : String
  volume : Int64
  collateral : Int64
  reward : Int64
  dateIssued : String
  dateCompleted : Option String
  completedBy : Option String
  deriving DecidableEq, Repr

namespace Contract

def fields : Fields Contract Contract :=
  Fields.done Contract.mk
    |>.required "contract_id" (·.id) .int64
    |>.optional "issuer_id" (·.issuerId) .int64
    |>.required "status" (·.status) .text
    |>.required "start_location_name" (·.startName) .text
    |>.required "end_location_name" (·.endName) .text
    |>.required "volume" (·.volume) .int64
    |>.required "collateral" (·.collateral) .int64
    |>.required "reward" (·.reward) .int64
    |>.required "date_issued" (·.dateIssued) .text
    |>.optional "date_completed" (·.dateCompleted) .text
    |>.optional "completed_by_character_name" (·.completedBy) .text

def codec : Codec Contract := fields.codec

/-- Was issued by someone: the identifier of the issuer is known and positive. -/
def hasValidIssuer (contract : Contract) : Bool :=
  contract.issuerId.any fun id => 0 < id

end Contract

structure TruckerStatistics where
  characterId : Option CharacterId
  characterName : Option String
  completedContracts : Int64
  deriving DecidableEq, Repr

namespace TruckerStatistics

def fields : Fields TruckerStatistics TruckerStatistics :=
  Fields.done TruckerStatistics.mk
    |>.optional "primary_character_id" (·.characterId) Identifier.codec
    |>.optional "primary_character_name" (·.characterName) .text
    |>.required "completed_contracts_count" (·.completedContracts) .int64

def codec : Codec TruckerStatistics := fields.codec

end TruckerStatistics

/-- The contracts of one origin that end at one place. -/
structure DestinationContracts where
  locationName : String
  contracts : List Contract
  deriving DecidableEq, Repr

namespace DestinationContracts

def fields : Fields DestinationContracts DestinationContracts :=
  Fields.done DestinationContracts.mk
    |>.required "location_name" (·.locationName) .text
    |>.required "contracts" (·.contracts) Contract.codec.list

def codec : Codec DestinationContracts := fields.codec

def ofContracts (contracts : List Contract) : List DestinationContracts :=
  (groupBy Contract.endName contracts).map fun group => ⟨group.key, group.items⟩

end DestinationContracts

structure OriginContracts where
  locationName : String
  destinations : List DestinationContracts
  deriving DecidableEq, Repr

namespace OriginContracts

def fields : Fields OriginContracts OriginContracts :=
  Fields.done OriginContracts.mk
    |>.required "location_name" (·.locationName) .text
    |>.required "destinations" (·.destinations) DestinationContracts.codec.list

def codec : Codec OriginContracts := fields.codec

/-- Groups the contracts with a valid issuer by where they start and where they end. -/
def ofContracts (contracts : List Contract) : List OriginContracts :=
  (groupBy Contract.startName (contracts.filter Contract.hasValidIssuer)).map fun group =>
    ⟨group.key, DestinationContracts.ofContracts group.items⟩

end OriginContracts

end Quartermaster.Freight

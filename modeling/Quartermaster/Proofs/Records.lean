import Quartermaster.Call
import Quartermaster.Fleet.TrackingTexts
import Quartermaster.Proofs.Calendar.Timestamp
import Quartermaster.Proofs.Json.Fields

/-!
Every record that is sent or received and holds no fraction is read back from its text as it was
(`Record.decode_encode`). For a record of fields this only takes that its fields have different
names and exact codecs; trees of products, which contain themselves, need an induction on how deep
they may nest.
-/

namespace Quartermaster

open Json (Codec Fields)

instance {kind : Kind} : (Identifier.codec : Codec (Identifier kind)).Exact :=
  .map inferInstance fun _ => rfl

instance : Calendar.Instant.codec.Exact := Codec.exact_textual Calendar.Instant.parse?_text

/-! ### Freight -/

namespace Freight

instance : Place.codec.Exact :=
  Fields.exact_codec (by decide) (fun _ => rfl) (by unfold Place.fields; infer_instance)

instance : Route.codec.Exact :=
  Fields.exact_codec (by decide) (fun _ => rfl) (by unfold Route.fields; infer_instance)

instance : RouteOption.codec.Exact :=
  Fields.exact_codec (by decide) (fun _ => rfl) (by unfold RouteOption.fields; infer_instance)

instance : RouteCost.codec.Exact :=
  Fields.exact_codec (by decide) (fun _ => rfl) (by unfold RouteCost.fields; infer_instance)

instance : Contract.codec.Exact :=
  Fields.exact_codec (by decide) (fun _ => rfl) (by unfold Contract.fields; infer_instance)

instance : TruckerStatistics.codec.Exact :=
  Fields.exact_codec (by decide) (fun _ => rfl) (by unfold TruckerStatistics.fields; infer_instance)

instance : DestinationContracts.codec.Exact :=
  Fields.exact_codec (by decide) (fun _ => rfl)
    (by unfold DestinationContracts.fields; infer_instance)

instance : OriginContracts.codec.Exact :=
  Fields.exact_codec (by decide) (fun _ => rfl) (by unfold OriginContracts.fields; infer_instance)

end Freight

namespace Choice

theorem exact_codec {α : Type} {codec : Codec α} (faithful : codec.Faithful) :
    (Choice.codec codec).Exact :=
  Fields.exact_codec (show ["label", "value"].Nodup by decide) (fun _ => rfl)
    (.more inferInstance faithful)

instance {α : Type} {codec : Codec α} [exact : codec.Exact] : (Choice.codec codec).Exact :=
  exact_codec exact.faithful

end Choice

instance : Freight.Calculator.codec.Exact :=
  Fields.exact_codec (by decide) (fun _ => rfl)
    (by unfold Freight.Calculator.fields; infer_instance)

/-! ### Market -/

namespace Market

instance : Responsibility.codec.Exact :=
  Fields.exact_codec (by decide) (fun _ => rfl) (by unfold Responsibility.fields; infer_instance)

instance : DailyQuantity.codec.Exact :=
  Fields.exact_codec (by decide) (fun _ => rfl) (by unfold DailyQuantity.fields; infer_instance)

instance : Contract.codec.Exact :=
  Fields.exact_codec (by decide) (fun _ => rfl) (by unfold Contract.fields; infer_instance)

instance : ResponsibilityRequest.codec.Exact :=
  Fields.exact_codec (by decide) (fun _ => rfl)
    (by unfold ResponsibilityRequest.fields; infer_instance)

instance : Character.codec.Exact :=
  Fields.exact_codec (by decide) (fun _ => rfl) (by unfold Character.fields; infer_instance)

instance : Corporation.codec.Exact :=
  Fields.exact_codec (by decide) (fun _ => rfl) (by unfold Corporation.fields; infer_instance)

instance : Expectation.codec.Exact :=
  Fields.exact_codec (by decide) (fun _ => rfl) (by unfold Expectation.fields; infer_instance)

instance : StockedDoctrine.codec.Exact :=
  Fields.exact_codec (by decide) (fun _ => rfl) (by unfold StockedDoctrine.fields; infer_instance)

instance : FittingStock.codec.Exact :=
  Fields.exact_codec (by decide) (fun _ => rfl) (by unfold FittingStock.fields; infer_instance)

instance : LocationStock.codec.Exact :=
  Fields.exact_codec (by decide) (fun _ => rfl) (by unfold LocationStock.fields; infer_instance)

end Market

/-! ### Characters, doctrines and fleets -/

instance : CharacterProfile.codec.Exact :=
  Fields.exact_codec (by decide) (fun _ => rfl) (by unfold CharacterProfile.fields; infer_instance)

instance : Pilot.codec.Exact :=
  Fields.exact_codec (by decide) (fun _ => rfl) (by unfold Pilot.fields; infer_instance)

instance : Doctrine.codec.Exact :=
  Fields.exact_codec (by decide) (fun _ => rfl) (by unfold Doctrine.fields; infer_instance)

namespace Fleet

theorem read_jumpsCodec {n : Json.Numeral} {i : Int} (integer : n.integer? = some i)
    (fits : 0 ≤ i ∧ i < UInt32.size) (depth : Nat) :
    jumpsCodec.read depth (.number n) = .ok (UInt32.ofNat i.toNat) := by
  simp only [jumpsCodec, integer]
  rw [if_pos fits]

instance : jumpsCodec.Exact where
  faithful jumps depth _ := by
    have bounded := jumps.toNat_lt
    have integer : (Json.Numeral.ofInt jumps.toNat).integer? = some (jumps.toNat : Int) :=
      Json.integer?_ofInt (by rw [Int64.toInt_minValue]; omega) (by simp only [UInt64.size]; omega)
    have fits : 0 ≤ (jumps.toNat : Int) ∧ (jumps.toNat : Int) < UInt32.size := by
      simp only [UInt32.size]
      omega
    have written : jumpsCodec.write jumps = .number (.ofInt jumps.toNat) := rfl
    rw [written, read_jumpsCodec integer fits, Int.toNat_natCast, UInt32.ofNat_toNat]
  definite _ := nofun

instance : Tracking.codec.Exact :=
  Fields.exact_codec (by decide) (fun _ => rfl) (by unfold Tracking.fields; infer_instance)

instance : Summary.codec.Exact :=
  Fields.exact_codec (by decide) (fun _ => rfl) (by unfold Summary.fields; infer_instance)

instance : Member.codec.Exact :=
  Fields.exact_codec (by decide) (fun _ => rfl) (by unfold Member.fields; infer_instance)

instance : Users.codec.Exact :=
  Fields.exact_codec (by decide) (fun _ => rfl) (by unfold Users.fields; infer_instance)

instance : Fleet.codec.Exact :=
  Fields.exact_codec (by decide) (fun _ => rfl) (by unfold Fleet.fields; infer_instance)

instance : Listing.codec.Exact :=
  Fields.exact_codec (by decide) (fun _ => rfl) (by unfold Listing.fields; infer_instance)

instance : Detail.codec.Exact :=
  Fields.exact_codec (by decide) (fun _ => rfl) (by unfold Detail.fields; infer_instance)

instance : ShipGroup.codec.Exact :=
  Fields.exact_codec (by decide) (fun _ => rfl) (by unfold ShipGroup.fields; infer_instance)

instance : SystemGroup.codec.Exact :=
  Fields.exact_codec (by decide) (fun _ => rfl) (by unfold SystemGroup.fields; infer_instance)

instance : TrackingTexts.codec.Exact :=
  Fields.exact_codec (by decide) (fun _ => rfl) (by unfold TrackingTexts.fields; infer_instance)

end Fleet

/-! ### Industry -/

namespace Industry

instance : Location.codec.Exact :=
  Fields.exact_codec (by decide) (fun _ => rfl) (by unfold Location.fields; infer_instance)

instance : OrderItem.codec.Exact :=
  Fields.exact_codec (by decide) (fun _ => rfl) (by unfold OrderItem.fields; infer_instance)

instance : Assignee.codec.Exact :=
  Fields.exact_codec (by decide) (fun _ => rfl) (by unfold Assignee.fields; infer_instance)

instance : Order.codec.Exact :=
  Fields.exact_codec (by decide) (fun _ => rfl) (by unfold Order.fields; infer_instance)

instance : OrderSummary.codec.Exact :=
  Fields.exact_codec (by decide) (fun _ => rfl) (by unfold OrderSummary.fields; infer_instance)

instance : FlatSummary.codec.Exact :=
  Fields.exact_codec (by decide) (fun _ => rfl) (by unfold FlatSummary.fields; infer_instance)

instance : Producer.codec.Exact :=
  Fields.exact_codec (by decide) (fun _ => rfl) (by unfold Producer.fields; infer_instance)

instance : LocatedOrder.codec.Exact :=
  Fields.exact_codec (by decide) (fun _ => rfl) (by unfold LocatedOrder.fields; infer_instance)

instance : LocationOrders.codec.Exact :=
  Fields.exact_codec (by decide) (fun _ => rfl) (by unfold LocationOrders.fields; infer_instance)

namespace SummaryNode

theorem writeAll_eq_map (trees : List SummaryNode) : write.writeAll trees = trees.map write := by
  induction trees with
  | nil => rfl
  | cons tree rest ih => rw [write.writeAll, ih, List.map_cons]

@[simp] theorem write_codecWithin (room : Nat) : (codecWithin room).write = write := by
  cases room <;> rfl

theorem write_fields (room : Nat) (tree : SummaryNode) :
    (fields (codecWithin room).list).codec.write tree = write tree := by
  cases tree with
  | node typeId typeName quantity children =>
    simp only [write, writeAll_eq_map, ← write_codecWithin room]
    rfl

/-- A tree that fits into the room there is read back, by induction on the room. -/
theorem recovers_codecWithin {room depth : Nat} {tree : SummaryNode}
    (fits : ((codecWithin room).write tree).nesting ≤ depth) (enough : depth ≤ room) :
    (codecWithin room).Recovers depth tree := by
  induction room generalizing depth tree with
  | zero =>
    cases tree
    simp only [write_codecWithin, write, Json.ofMembers, Json.nesting] at fits
    omega
  | succ room ih =>
    rw [write_codecWithin, ← write_fields room] at fits
    obtain ⟨inside, rfl, members⟩ := Json.exists_depth_of_members fits
    have here : ((codecWithin room).list.write tree.children).nesting ≤ inside :=
      members ("children", _) (by simp [fields, Fields.required, Fields.defaulted, Fields.write])
    obtain ⟨within, rfl, items⟩ := Json.exists_depth_of_array here
    have products : (codecWithin room).list.Recovers (within + 1) tree.children :=
      .list fun product member => ih (items _ (List.mem_map_of_mem member)) (by omega)
    have recovers : (fields (codecWithin room).list).Recovers (within + 1) tree :=
      ⟨⟨⟨⟨trivial, Codec.recovers_of_fits (Nat.zero_le _)⟩, Codec.recovers_of_fits (Nat.zero_le _)⟩,
        Codec.recovers_of_fits (Nat.zero_le _)⟩, products⟩
    have distinct : (fields (codecWithin room).list).names.Nodup :=
      show ["eve_type_id", "eve_type_name", "quantity", "children"].Nodup by decide
    have read := Fields.recovers_codec distinct (fun tree => by cases tree; rfl) recovers
    rwa [Codec.Recovers, write_fields] at read

instance : codec.Exact where
  faithful tree depth fits := by
    have read : (codecWithin depth).Recovers depth tree :=
      recovers_codecWithin (by rwa [write_codecWithin]) (Nat.le_refl depth)
    rwa [Codec.Recovers, write_codecWithin] at read
  definite tree := by cases tree; nofun

end SummaryNode

instance : NestedSummary.codec.Exact :=
  Fields.exact_codec (by decide) (fun _ => rfl) (by unfold NestedSummary.fields; infer_instance)

end Industry

/-! ### All records -/

/-- A kind of record that holds no fraction: what the services send, and what is made of it. -/
inductive Record : Type → Type 1
  | identifier (kind : Kind) : Record (Identifier kind)
  | place : Record Freight.Place
  | route : Record Freight.Route
  | routeOption : Record Freight.RouteOption
  | routeCost : Record Freight.RouteCost
  | freightContract : Record Freight.Contract
  | truckerStatistics : Record Freight.TruckerStatistics
  | responsibility : Record Market.Responsibility
  | dailyQuantity : Record Market.DailyQuantity
  | marketContract : Record Market.Contract
  | responsibilityRequest : Record Market.ResponsibilityRequest
  | marketCharacter : Record Market.Character
  | corporation : Record Market.Corporation
  | expectation : Record Market.Expectation
  | stockedDoctrine : Record Market.StockedDoctrine
  | fittingStock : Record Market.FittingStock
  | locationStock : Record Market.LocationStock
  | tracking : Record Fleet.Tracking
  | fleet : Record Fleet
  | fleetSummary : Record Fleet.Summary
  | fleetMember : Record Fleet.Member
  | fleetUsers : Record Fleet.Users
  | characterProfile : Record CharacterProfile
  | doctrine : Record Doctrine
  | location : Record Industry.Location
  | orderItem : Record Industry.OrderItem
  | assignee : Record Industry.Assignee
  | order : Record Industry.Order
  | orderSummary : Record Industry.OrderSummary
  | flatSummary : Record Industry.FlatSummary
  | summaryNode : Record Industry.SummaryNode
  | nestedSummary : Record Industry.NestedSummary
  /-- Values of any type can be chosen whose codec reads back what it wrote. -/
  | choice {α : Type} (codec : Codec α) (faithful : codec.Faithful) : Record (Choice α)
  | listing : Record Fleet.Listing
  | detail : Record Fleet.Detail
  | pilot : Record Pilot
  | shipGroup : Record Fleet.ShipGroup
  | systemGroup : Record Fleet.SystemGroup
  | trackingTexts : Record Fleet.TrackingTexts
  | calculator : Record Freight.Calculator
  | destinationContracts : Record Freight.DestinationContracts
  | originContracts : Record Freight.OriginContracts
  | producer : Record Industry.Producer
  | locatedOrder : Record Industry.LocatedOrder
  | locationOrders : Record Industry.LocationOrders

namespace Record

variable {α : Type}

def codec : Record α → Codec α
  | identifier _ => Identifier.codec
  | place => Freight.Place.codec
  | route => Freight.Route.codec
  | routeOption => Freight.RouteOption.codec
  | routeCost => Freight.RouteCost.codec
  | freightContract => Freight.Contract.codec
  | truckerStatistics => Freight.TruckerStatistics.codec
  | responsibility => Market.Responsibility.codec
  | dailyQuantity => Market.DailyQuantity.codec
  | marketContract => Market.Contract.codec
  | responsibilityRequest => Market.ResponsibilityRequest.codec
  | marketCharacter => Market.Character.codec
  | corporation => Market.Corporation.codec
  | expectation => Market.Expectation.codec
  | stockedDoctrine => Market.StockedDoctrine.codec
  | fittingStock => Market.FittingStock.codec
  | locationStock => Market.LocationStock.codec
  | tracking => Fleet.Tracking.codec
  | fleet => Fleet.codec
  | fleetSummary => Fleet.Summary.codec
  | fleetMember => Fleet.Member.codec
  | fleetUsers => Fleet.Users.codec
  | characterProfile => CharacterProfile.codec
  | doctrine => Doctrine.codec
  | location => Industry.Location.codec
  | orderItem => Industry.OrderItem.codec
  | assignee => Industry.Assignee.codec
  | order => Industry.Order.codec
  | orderSummary => Industry.OrderSummary.codec
  | flatSummary => Industry.FlatSummary.codec
  | summaryNode => Industry.SummaryNode.codec
  | nestedSummary => Industry.NestedSummary.codec
  | choice codec _ => Choice.codec codec
  | listing => Fleet.Listing.codec
  | detail => Fleet.Detail.codec
  | pilot => Pilot.codec
  | shipGroup => Fleet.ShipGroup.codec
  | systemGroup => Fleet.SystemGroup.codec
  | trackingTexts => Fleet.TrackingTexts.codec
  | calculator => Freight.Calculator.codec
  | destinationContracts => Freight.DestinationContracts.codec
  | originContracts => Freight.OriginContracts.codec
  | producer => Industry.Producer.codec
  | locatedOrder => Industry.LocatedOrder.codec
  | locationOrders => Industry.LocationOrders.codec

theorem exact_codec (record : Record α) : record.codec.Exact := by
  cases record with
  | choice codec faithful => exact Choice.exact_codec faithful
  | _ => unfold Record.codec; infer_instance

/-- A record that does not nest too deeply is read back from its text. -/
theorem decode_encode (record : Record α) (value : α)
    (fits : (record.codec.write value).nesting ≤ Json.nestingLimit) :
    record.codec.decode (record.codec.encode value) = .ok value :=
  Codec.decode_encode_of_recovers (record.exact_codec.faithful value _ fits)

/-- A year before the first, a leap second and characters that have to be escaped come back. -/
theorem decode_encode_leapSecond :
    let order : Industry.OrderSummary := {
      id := Int64.minValue
      characterId := ⟨90000001⟩
      characterName := "\"Ünal\"\n\x7f"
      createdAt := ⟨⟨-44, 3, 15, by decide⟩, ⟨23, 59, 60, 500000000, by decide⟩⟩
      neededBy := none }
    (orderSummary.codec.write order).nesting ≤ Json.nestingLimit ∧
      orderSummary.codec.decode (orderSummary.codec.encode order) = .ok order := by
  intro order
  have fits : (orderSummary.codec.write order).nesting ≤ Json.nestingLimit := by decide
  exact ⟨fits, decode_encode _ order fits⟩

end Record

end Quartermaster

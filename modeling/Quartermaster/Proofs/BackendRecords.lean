import Mathlib.Logic.Relation
import Quartermaster.Character
import Quartermaster.Combat.Log
import Quartermaster.Doctrine
import Quartermaster.Fleet.Basic
import Quartermaster.Freight.Contract
import Quartermaster.Freight.Route
import Quartermaster.Industry.Order
import Quartermaster.Industry.SummaryNode
import Quartermaster.Market.Contract
import Quartermaster.Market.Expectation
import Quartermaster.Market.SellOrder
import Quartermaster.Proofs.Json.Tolerance

/-!
Records of the backend are read alike from objects that say the same of their fields. An `Edit` moves
members, adds one that is no field, or says null for what need not be said, anywhere in a document
where a record is read; no number of edits, made or taken back, changes what is read
(`BackendRecord.decode_of_edits`).
-/

namespace Quartermaster

open Json (Codec Field Fields Member)

/-! ### Trees of products -/

namespace Industry.SummaryNode

/-- Lists of trees are read alike if trees are, one container further in. -/
theorem read_list_congr {codec other : Codec SummaryNode} {depth : Nat}
    (alike : ∀ inside < depth, codec.read inside = other.read inside) :
    codec.list.read depth = other.list.read depth := by
  funext document
  cases depth with
  | zero => cases document <;> rfl
  | succ inside =>
    cases document with
    | array items => simp only [Codec.list, alike inside (Nat.lt_succ_self inside)]
    | _ => rfl

/-- Of how its parts are read, a product only minds the depth at which they stand. -/
theorem read_fields_congr {parts other : Codec (List SummaryNode)} {depth : Nat}
    (alike : parts.read depth = other.read depth) :
    (fields parts).codec.read (depth + 1) = (fields other).codec.read (depth + 1) := by
  have named (members : Json.Numbered) :
      (fields parts).readNamed depth members = (fields other).readNamed depth members := by
    simp only [fields, Fields.defaulted, Fields.readNamed, Field.readNamed, Field.ofUnnamed, alike]
  have inOrder (items : List Json) :
      (fields parts).readItems depth items = (fields other).readItems depth items := by
    simp only [fields, Fields.defaulted, Fields.readItems]
    congr 1
    funext front
    cases front.2 <;> simp only [Field.readItem, alike]
  funext document
  cases document with
  | array items => simp only [Fields.codec, Fields.readArray, inOrder]
  | object members => simp only [Fields.codec, Fields.readObject, named]
  | _ => rfl

theorem read_codecWithin {room depth : Nat} (enough : depth ≤ room) :
    (codecWithin room).read depth = codec.read depth := by
  -- a product stands in a list within a product, so that the depth falls by two at a time
  induction depth using Nat.strongRecOn generalizing room with
  | ind depth ih =>
    cases depth with
    | zero =>
      cases room with
      | zero => rfl
      | succ room => funext document; cases document <;> rfl
    | succ depth =>
      cases room with
      | zero => contradiction
      | succ room =>
        refine read_fields_congr (read_list_congr fun inside below => ?_)
        rw [ih inside (by omega) (by omega), ih inside (by omega) (by omega)]

/-- A tree is read as a product whose parts are trees. -/
theorem read_codec : codec.read = (fields codec.list).codec.read := by
  funext depth
  cases depth with
  | zero => funext document; cases document <;> rfl
  | succ depth =>
    exact read_fields_congr (read_list_congr fun inside below =>
      read_codecWithin (Nat.le_of_lt below))

end Industry.SummaryNode

/-! ### Records -/

/-- A kind of record that is exchanged with the backend; what is no field of it is not kept. -/
inductive BackendRecord : Type → Type 1
  | damageEntry : BackendRecord Combat.DamageEntry
  | place : BackendRecord Freight.Place
  | route : BackendRecord Freight.Route
  | routeOption : BackendRecord Freight.RouteOption
  | routeCost : BackendRecord Freight.RouteCost
  | freightContract : BackendRecord Freight.Contract
  | truckerStatistics : BackendRecord Freight.TruckerStatistics
  | responsibility : BackendRecord Market.Responsibility
  | dailyQuantity : BackendRecord Market.DailyQuantity
  | marketContract : BackendRecord Market.Contract
  | responsibilityRequest : BackendRecord Market.ResponsibilityRequest
  | marketCharacter : BackendRecord Market.Character
  | corporation : BackendRecord Market.Corporation
  | expectation : BackendRecord Market.Expectation
  | stockedDoctrine : BackendRecord Market.StockedDoctrine
  | fittingStock : BackendRecord Market.FittingStock
  | locationStock : BackendRecord Market.LocationStock
  | sellOrderItem : BackendRecord Market.SellOrderItem
  | sellOrderLocation : BackendRecord Market.SellOrderLocation
  | tracking : BackendRecord Fleet.Tracking
  | fleet : BackendRecord Fleet
  | fleetSummary : BackendRecord Fleet.Summary
  | fleetMember : BackendRecord Fleet.Member
  | fleetUsers : BackendRecord Fleet.Users
  | characterProfile : BackendRecord CharacterProfile
  | doctrine : BackendRecord Doctrine
  | location : BackendRecord Industry.Location
  | orderItem : BackendRecord Industry.OrderItem
  | assignee : BackendRecord Industry.Assignee
  | order : BackendRecord Industry.Order
  | orderSummary : BackendRecord Industry.OrderSummary
  | flatSummary : BackendRecord Industry.FlatSummary
  | summaryNode : BackendRecord Industry.SummaryNode
  | nestedSummary : BackendRecord Industry.NestedSummary

namespace BackendRecord

variable {α ρ : Type}

def fields : BackendRecord α → Fields α α
  | damageEntry => Combat.DamageEntry.fields
  | place => Freight.Place.fields
  | route => Freight.Route.fields
  | routeOption => Freight.RouteOption.fields
  | routeCost => Freight.RouteCost.fields
  | freightContract => Freight.Contract.fields
  | truckerStatistics => Freight.TruckerStatistics.fields
  | responsibility => Market.Responsibility.fields
  | dailyQuantity => Market.DailyQuantity.fields
  | marketContract => Market.Contract.fields
  | responsibilityRequest => Market.ResponsibilityRequest.fields
  | marketCharacter => Market.Character.fields
  | corporation => Market.Corporation.fields
  | expectation => Market.Expectation.fields
  | stockedDoctrine => Market.StockedDoctrine.fields
  | fittingStock => Market.FittingStock.fields
  | locationStock => Market.LocationStock.fields
  | sellOrderItem => Market.SellOrderItem.fields
  | sellOrderLocation => Market.SellOrderLocation.fields
  | tracking => Fleet.Tracking.fields
  | fleet => Fleet.fields
  | fleetSummary => Fleet.Summary.fields
  | fleetMember => Fleet.Member.fields
  | fleetUsers => Fleet.Users.fields
  | characterProfile => CharacterProfile.fields
  | doctrine => Doctrine.fields
  | location => Industry.Location.fields
  | orderItem => Industry.OrderItem.fields
  | assignee => Industry.Assignee.fields
  | order => Industry.Order.fields
  | orderSummary => Industry.OrderSummary.fields
  | flatSummary => Industry.FlatSummary.fields
  | summaryNode => Industry.SummaryNode.fields Industry.SummaryNode.codec.list
  | nestedSummary => Industry.NestedSummary.fields

def codec : BackendRecord α → Codec α
  | damageEntry => Combat.DamageEntry.codec
  | place => Freight.Place.codec
  | route => Freight.Route.codec
  | routeOption => Freight.RouteOption.codec
  | routeCost => Freight.RouteCost.codec
  | freightContract => Freight.Contract.codec
  | truckerStatistics => Freight.TruckerStatistics.codec
  | responsibility => Market.Responsibility.codec
  | dailyQuantity => Market.DailyQuantity.codec
  | marketContract => Market.Contract.codec
  | responsibilityRequest => Market.ResponsibilityRequest.codec
  | marketCharacter => Market.Character.codec
  | corporation => Market.Corporation.codec
  | expectation => Market.Expectation.codec
  | stockedDoctrine => Market.StockedDoctrine.codec
  | fittingStock => Market.FittingStock.codec
  | locationStock => Market.LocationStock.codec
  | sellOrderItem => Market.SellOrderItem.codec
  | sellOrderLocation => Market.SellOrderLocation.codec
  | tracking => Fleet.Tracking.codec
  | fleet => Fleet.codec
  | fleetSummary => Fleet.Summary.codec
  | fleetMember => Fleet.Member.codec
  | fleetUsers => Fleet.Users.codec
  | characterProfile => CharacterProfile.codec
  | doctrine => Doctrine.codec
  | location => Industry.Location.codec
  | orderItem => Industry.OrderItem.codec
  | assignee => Industry.Assignee.codec
  | order => Industry.Order.codec
  | orderSummary => Industry.OrderSummary.codec
  | flatSummary => Industry.FlatSummary.codec
  | summaryNode => Industry.SummaryNode.codec
  | nestedSummary => Industry.NestedSummary.codec

theorem read_codec (record : BackendRecord α) : record.codec.read = record.fields.codec.read := by
  cases record with
  | summaryNode => exact Industry.SummaryNode.read_codec
  | _ => rfl

theorem nodup_names (record : BackendRecord α) : record.fields.names.Nodup := by
  cases record <;> decide

instance {kind : Kind} : (Identifier.codec : Codec (Identifier kind)).RefusesNull := by
  unfold Identifier.codec
  infer_instance

instance : Calendar.Instant.codec.RefusesNull := by
  unfold Calendar.Instant.codec
  infer_instance

instance : Freight.Place.codec.RefusesNull := by
  unfold Freight.Place.codec
  infer_instance

/-- Null stands for what the field of a record is without a member, if it takes null at all. -/
theorem lenient (record : BackendRecord α) : record.fields.Lenient := by
  -- each record is opened up to its fields, over which the instances go one by one
  cases record <;> simp only [fields, Combat.DamageEntry.fields, Freight.Place.fields,
    Freight.Route.fields, Freight.RouteOption.fields, Freight.RouteCost.fields,
    Freight.Contract.fields, Freight.TruckerStatistics.fields, Market.Responsibility.fields,
    Market.DailyQuantity.fields, Market.Contract.fields, Market.ResponsibilityRequest.fields,
    Market.Character.fields, Market.Corporation.fields, Market.Expectation.fields,
    Market.StockedDoctrine.fields, Market.FittingStock.fields, Market.LocationStock.fields,
    Market.SellOrderItem.fields, Market.SellOrderLocation.fields, Fleet.Tracking.fields,
    Fleet.fields, Fleet.Summary.fields, Fleet.Member.fields, Fleet.Users.fields,
    CharacterProfile.fields, Doctrine.fields, Industry.Location.fields, Industry.OrderItem.fields,
    Industry.Assignee.fields, Industry.Order.fields, Industry.OrderSummary.fields,
    Industry.FlatSummary.fields, Industry.SummaryNode.fields, Industry.NestedSummary.fields] <;>
    infer_instance

end BackendRecord

/-! ### Edits -/

/--
A change of a document that a codec does not notice. Made at the record that a codec reads, it
reorders the members, puts in a member that is no field, or puts in null for a field that holds an
optional value and has no member. It may as well be made inside: in what a field holds, in an
optional value that is there, or in an item of a list.
-/
inductive Edit : {α : Type} → Codec α → Json → Json → Prop
  | reorder {ρ : Type} (record : BackendRecord ρ) {members members' : List Member}
    (same : members.Perm members') : Edit record.codec (.object members) (.object members')
  | insert {ρ : Type} (record : BackendRecord ρ) {front back : List Member} {name : String}
    (unknown : name ∉ record.fields.names) (document : Json) :
    Edit record.codec (.object (front ++ back)) (.object (front ++ (some name, document) :: back))
  | null {ρ β : Type} (record : BackendRecord ρ) {front back : List Member}
    {field : Field ρ (Option β)} {codec : Codec β} (has : record.fields.Has field)
    (optional : field.codec = codec.option)
    (absent : ∀ member ∈ front ++ back, member.1 ≠ some field.name) :
    Edit record.codec (.object (front ++ back))
      (.object (front ++ (some field.name, .null) :: back))
  | member {ρ β : Type} (record : BackendRecord ρ) {front back : List Member} {field : Field ρ β}
    {document document' : Json} (has : record.fields.Has field)
    (edit : Edit field.codec document document') :
    Edit record.codec (.object (front ++ (some field.name, document) :: back))
      (.object (front ++ (some field.name, document') :: back))
  | option {α : Type} {codec : Codec α} {document document' : Json}
    (edit : Edit codec document document') : Edit codec.option document document'
  | item {α : Type} {codec : Codec α} {front back : List Json} {document document' : Json}
    (edit : Edit codec document document') :
    Edit codec.list (.array (front ++ document :: back)) (.array (front ++ document' :: back))

namespace Edit

variable {α : Type} {codec : Codec α} {document document' : Json}

theorem ne_null (edit : Edit codec document document') : document ≠ .null ∧ document' ≠ .null := by
  induction edit with
  | option edit ih => exact ih
  | _ => exact ⟨nofun, nofun⟩

/-- An edit does not change what is read, by induction on how far inside it is made. -/
theorem read_iff (edit : Edit codec document document') (depth : Nat) (value : α) :
    codec.read depth document = .ok value ↔ codec.read depth document' = .ok value := by
  induction edit generalizing depth with
  | reorder record same =>
    rw [record.read_codec]
    exact Fields.read_reorder same
  | insert record unknown document =>
    rw [record.read_codec]
    exact Fields.read_insert unknown
  | null record has optional absent =>
    rw [record.read_codec]
    exact Fields.read_null record.nodup_names record.lenient has optional absent
  | member record has edit ih =>
    rw [record.read_codec]
    exact Fields.read_replace record.nodup_names has ih
  | option edit ih =>
    obtain ⟨some, some'⟩ := edit.ne_null
    rw [Codec.read_option_of_ne_null some, Codec.read_option_of_ne_null some']
    simp only [map_eq_ok_iff, ih]
  | item edit ih =>
    simp only [Codec.read_list_iff]
    refine exists_congr fun inside => and_congr_right fun _ => ?_
    exact forall₂_replace (ih inside)

/-- Any number of edits, made or taken back, does not change what is read. -/
theorem read_iff_of_edits (edits : Relation.EqvGen (Edit codec) document document') (depth : Nat)
    (value : α) : codec.read depth document = .ok value ↔ codec.read depth document' = .ok value := by
  induction edits with
  | rel document document' edit => exact edit.read_iff depth value
  | refl document => rfl
  | symm document document' edits ih => exact ih.symm
  | trans document between document' before after ih ih' => exact ih.trans ih'

end Edit

namespace BackendRecord

/--
Texts of a record that differ in the order of their members, in members that are no fields, and in
whether an optional value that is not there is null or not mentioned, are read as the same record.
-/
theorem decode_of_edits {α : Type} (record : BackendRecord α) {text edited : String}
    {document document' : Json} (parsed : Json.parse? text = some document)
    (parsed' : Json.parse? edited = some document')
    (edits : Relation.EqvGen (Edit record.codec) document document') (value : α) :
    record.codec.decode text = .ok value ↔ record.codec.decode edited = .ok value := by
  rw [Codec.decode, Codec.decode, parsed, parsed']
  exact Edit.read_iff_of_edits edits Json.nestingLimit value

/-- A contract with its members in another order, without a structure and with an unknown rank. -/
theorem decode_of_edits_contract :
    let responsibilities (members : List Member) : Member :=
      (some "responsibilities", .array [.object members])
    let pilot : List Member := [(some "entity_type", .ofString "character"),
      (some "entity_id", .ofInt 9), (some "entity_name", .ofString "Pilot")]
    let rest : List Member := [(some "title", .ofString "Rifter"), (some "fitting_id", .ofInt 7),
      (some "location_name", .ofString "Amamake"), (some "desired_quantity", .ofInt 3),
      (some "current_quantity", .ofInt 1)]
    let document : Json := .object (rest ++ [responsibilities pilot])
    let edited : Json := .object ((some "structure_id", .null) ::
      responsibilities ((some "rank", .string none) :: pilot) :: rest)
    Relation.EqvGen (Edit marketContract.codec) document edited ∧
      ∃ value, marketContract.codec.decode document.compact = .ok value ∧
        marketContract.codec.decode edited.compact = .ok value := by
  intro responsibilities pilot rest document edited
  have ranked : Edit responsibility.codec (.object ([] ++ pilot))
      (.object ([] ++ (some "rank", .string none) :: pilot)) :=
    .insert responsibility (by decide) _
  have listed : Edit responsibility.codec.list (.array ([] ++ .object pilot :: []))
      (.array ([] ++ .object ((some "rank", .string none) :: pilot) :: [])) := .item ranked
  have inside : Edit marketContract.codec document
      (.object (rest ++ [responsibilities ((some "rank", .string none) :: pilot)])) :=
    .member marketContract (.last _) listed
  have ordered : Edit marketContract.codec
      (.object (rest ++ [responsibilities ((some "rank", .string none) :: pilot)]))
      (.object ([] ++ responsibilities ((some "rank", .string none) :: pilot) :: rest)) :=
    .reorder marketContract List.perm_append_comm
  have empty : Edit marketContract.codec
      (.object ([] ++ responsibilities ((some "rank", .string none) :: pilot) :: rest)) edited :=
    .null marketContract (.before (.before (.before (.before (.before (.last _)))))) rfl (by decide)
  have edits : Relation.EqvGen (Edit marketContract.codec) document edited :=
    .trans _ _ _ (.rel _ _ inside) (.trans _ _ _ (.rel _ _ ordered) (.rel _ _ empty))
  obtain ⟨value, read⟩ : ∃ value, marketContract.codec.decode document.compact = .ok value := by
    rw [Codec.decode, Json.parse?_compact]
    exact ⟨_, rfl⟩
  exact ⟨edits, value, read, (decode_of_edits marketContract (Json.parse?_compact document)
    (Json.parse?_compact edited) edits value).mp read⟩

/-- The origin of a route goes by another spelling, so that a member of this name is no field. -/
example : "origin" ∉ route.fields.names := by decide

end BackendRecord

end Quartermaster

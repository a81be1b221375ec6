import Mathlib.Data.List.Sort
import Quartermaster.Industry.Order
import Quartermaster.Proofs.Grouping
import Quartermaster.Proofs.Members

/-!
Industry orders by location. Grouping orders and arranging the locations comes to the same as
putting the orders one by one into an object whose names are the numerals of the locations, and
listing its values (`ordersByLocation_eq_values`).
-/

namespace Quartermaster

namespace Industry

namespace LocationOrders

theorem isIndex_iff (id : LocationId) :
    isIndex id = true ↔ 0 ≤ id.toInt ∧ id.toInt ≤ 4294967294 := by
  simp [isIndex, Int64.le_iff_toInt_le, Identifier.toInt, largestIndex]

theorem arrayIndex?_text (id : LocationId) :
    arrayIndex? id.text = if isIndex id then some id.toInt.toNat else none := by
  refine (arrayIndex?_integer id.toInt).trans ?_
  congr 1
  rw [isIndex_iff]
  exact propext (by omega)

/-! ### Arranging locations -/

variable {locations : List LocationOrders}

def indexed (location : LocationOrders) : Bool := isIndex location.locationId

/-- Indices come before each other by number, and before all other identifiers. -/
theorem precedes_iff (first second : LocationOrders) :
    precedes first second = true ↔
      if indexed first then indexed second → first.locationId.toInt ≤ second.locationId.toInt
      else indexed second = false := by
  unfold precedes indexed
  cases isIndex first.locationId <;> cases isIndex second.locationId <;>
    simp [Int64.le_iff_toInt_le, Identifier.toInt]

theorem precedes_trans (first second third : LocationOrders) (before : precedes first second)
    (after : precedes second third) : precedes first third := by
  rw [precedes_iff] at before after ⊢
  grind

theorem precedes_total (first second : LocationOrders) :
    precedes first second || precedes second first := by
  rw [Bool.or_eq_true, precedes_iff, precedes_iff]
  grind

theorem pairwise_arrange (locations : List LocationOrders) :
    (arrange locations).Pairwise fun first second => precedes first second :=
  List.pairwise_mergeSort precedes_trans precedes_total locations

theorem perm_arrange (locations : List LocationOrders) : (arrange locations).Perm locations :=
  List.mergeSort_perm locations precedes

theorem eq_append_of_pairwise
    (sorted : locations.Pairwise fun first second => precedes first second) :
    locations = locations.filter indexed ++ locations.filter (!indexed ·) := by
  induction locations with
  | nil => rfl
  | cons first rest ih =>
    obtain ⟨before, sortedRest⟩ := List.pairwise_cons.mp sorted
    cases kind : indexed first with
    | true => simpa [kind] using ih sortedRest
    | false =>
      have others : ∀ location ∈ rest, indexed location = false := fun location member => by
        simpa [kind] using (precedes_iff first location).mp (before location member)
      have noIndex : rest.filter indexed = [] :=
        List.filter_eq_nil_iff.mpr fun location member => by simp [others location member]
      have allOthers : rest.filter (!indexed ·) = rest :=
        List.filter_eq_self.mpr fun location member => by simp [others location member]
      simp [kind, noIndex, allOthers]

/-- Sorting is stable, so identifiers that are no indices keep their order. -/
theorem others_arrange (locations : List LocationOrders) :
    (arrange locations).filter (!indexed ·) = locations.filter (!indexed ·) := by
  have ordered : (locations.filter (!indexed ·)).Pairwise fun first second =>
      precedes first second := by
    refine List.pairwise_of_forall_mem_list fun first member second member' => ?_
    have kind : indexed first = false := by simpa using (List.mem_filter.mp member).2
    have kind' : indexed second = false := by simpa using (List.mem_filter.mp member').2
    simp [precedes_iff, kind, kind']
  have kept : (locations.filter (!indexed ·)).Sublist (arrange locations) :=
    List.sublist_mergeSort precedes_trans precedes_total ordered List.filter_sublist
  have keptHere : (locations.filter (!indexed ·)).Sublist
      ((arrange locations).filter (!indexed ·)) := by
    simpa [List.filter_filter] using kept.filter (!indexed ·)
  exact (keptHere.eq_of_length ((perm_arrange locations).filter _).length_eq.symm).symm

theorem ascending_arrange (distinct : (locations.map (·.locationId)).Nodup) :
    ((arrange locations).filter indexed).Pairwise fun first second =>
      first.locationId.toInt < second.locationId.toInt := by
  have apart : (arrange locations).Pairwise fun first second =>
      first.locationId ≠ second.locationId :=
    List.pairwise_map.mp (((perm_arrange locations).map _).nodup_iff.mpr distinct)
  refine ((pairwise_arrange locations).and apart).filter indexed |>.imp_of_mem ?_
  intro first second member member' ⟨before, different⟩
  have kind := (List.mem_filter.mp member).2
  have kind' := (List.mem_filter.mp member').2
  have ordered : first.locationId.toInt ≤ second.locationId.toInt := by
    simpa [kind, kind'] using (precedes_iff first second).mp before
  have unequal : first.locationId.toInt ≠ second.locationId.toInt := fun same =>
    different (Identifier.toInt_injective same)
  omega

/-! ### The object of locations -/

def member (location : LocationOrders) : String × LocationOrders :=
  (location.locationId.text, location)

/-- Puts an order under the numeral of its location; the first order of a location names it. -/
def put (members : Members LocationOrders) (order : Order) : Members LocationOrders :=
  match LocatedOrder.ofOrder? order with
  | none => members
  | some located => members.change located.location.id.text fun
    | none => ⟨located.location.id, located.location.name, [located]⟩
    | some held => { held with orders := held.orders ++ [located] }

def ofGroup (group : Group LocationId LocatedOrder) : LocationOrders :=
  ⟨group.key, group.first.location.name, group.items⟩

/-- The orders that have a location, by its identifier. -/
def groups (orders : List Order) : List (Group LocationId LocatedOrder) :=
  groupBy (·.location.id) (orders.filterMap LocatedOrder.ofOrder?)

/-- Changing a member of the object is adding to a group. -/
theorem change_members (located : LocatedOrder) (groups : List (Group LocationId LocatedOrder)) :
    Members.change located.location.id.text
        (fun
          | none => ⟨located.location.id, located.location.name, [located]⟩
          | some held => { held with orders := held.orders ++ [located] })
        (groups.map fun group => member (ofGroup group)) =
      (addToGroups located.location.id located groups).map fun group => member (ofGroup group) := by
  induction groups with
  | nil => rfl
  | cons head rest ih =>
    by_cases same : head.key = located.location.id
    · simp [Members.change, addToGroups, member, ofGroup, same, Group.items_add]
      rfl
    · have apart : head.key.text ≠ located.location.id.text := fun equal =>
        same (Identifier.text_injective equal)
      simp only [List.map_cons, Members.change, addToGroups, if_neg same, member, ofGroup,
        if_neg apart]
      exact congrArg _ ih

theorem foldl_put (orders : List Order) :
    orders.foldl put [] = (groups orders).map fun group => member (ofGroup group) := by
  induction orders using List.reverseRecOn with
  | nil => rfl
  | append_singleton earlier order ih =>
    rw [List.foldl_append, ih]
    cases found : LocatedOrder.ofOrder? order with
    | none => simp [put, found, groups]
    | some located =>
      have more : groups (earlier ++ [order]) =
          addToGroups located.location.id located (groups earlier) := by
        simp [groups, found, groupBy_concat]
      simp only [List.foldl_cons, List.foldl_nil, put, found, more]
      exact change_members located (groups earlier)

/-- The location with its number, which is its index if it has one. -/
def numbered (location : LocationOrders) : Nat × LocationOrders :=
  (location.locationId.toInt.toNat, location)

theorem indexed_members (locations : List LocationOrders) :
    Members.indexed (locations.map member) = (locations.filter indexed).map numbered := by
  induction locations with
  | nil => rfl
  | cons first rest ih =>
    simp only [Members.indexed, List.filterMap_map] at ih
    cases kind : isIndex first.locationId <;>
      simp [Members.indexed, member, numbered, arrayIndex?_text, indexed, kind, ih]

theorem named_members (locations : List LocationOrders) :
    Members.named (locations.map member) = (locations.filter (!indexed ·)).map member := by
  rw [Members.named, List.filter_map]
  congr 1
  refine List.filter_congr fun location _ => ?_
  cases kind : isIndex location.locationId <;> simp [member, arrayIndex?_text, indexed, kind]

theorem numbered_inj {first second : LocationOrders} (kind : indexed first) (kind' : indexed second)
    (same : first.locationId.toInt.toNat = second.locationId.toInt.toNat) :
    first.locationId = second.locationId := by
  have low := (isIndex_iff _).mp kind
  have low' := (isIndex_iff _).mp kind'
  exact Identifier.toInt_injective (by omega)

theorem sort_indexed (distinct : (locations.map (·.locationId)).Nodup) :
    Members.sort (Members.indexed (locations.map member)) =
      ((arrange locations).filter indexed).map numbered := by
  rw [indexed_members]
  have same := (Members.perm_sort ((locations.filter indexed).map numbered)).trans
    (((perm_arrange locations).filter indexed).map numbered).symm
  have ascending : (((arrange locations).filter indexed).map numbered).Pairwise
      fun first second => first.1 ≤ second.1 := by
    refine List.pairwise_map.mpr ((ascending_arrange distinct).imp fun before => ?_)
    exact Int.toNat_le_toNat before.le
  refine same.eq_of_pairwise ?_ (Members.pairwise_sort _) ascending
  intro first second held held' before after
  obtain ⟨location, present, rfl⟩ := List.mem_map.mp ((Members.perm_sort _).mem_iff.mp held)
  obtain ⟨location', present', rfl⟩ := List.mem_map.mp held'
  obtain ⟨known, kind⟩ := List.mem_filter.mp present
  obtain ⟨known', kind'⟩ := List.mem_filter.mp present'
  have equal := numbered_inj kind kind' (Nat.le_antisymm before after)
  rw [List.inj_on_of_nodup_map distinct known ((perm_arrange _).mem_iff.mp known') equal]

theorem values_members (distinct : (locations.map (·.locationId)).Nodup) :
    Members.values (locations.map member) = arrange locations := by
  rw [Members.values, sort_indexed distinct, named_members, List.map_map, List.map_map]
  simp only [Function.comp_def, numbered, member, List.map_id']
  rw [← others_arrange, ← eq_append_of_pairwise (pairwise_arrange locations)]

/-! ### Orders by location -/

def seenIds (orders : List Order) : List LocationId :=
  orders.filterMap fun order => order.location.map (·.id)

theorem seenIds_eq (orders : List Order) :
    seenIds orders = (orders.filterMap LocatedOrder.ofOrder?).map (·.location.id) := by
  rw [seenIds, List.map_filterMap]
  simp [LocatedOrder.ofOrder?, Function.comp_def]

theorem grouped_groups (orders : List Order) :
    Grouped (·.location.id) (orders.filterMap LocatedOrder.ofOrder?) (groups orders) :=
  grouped_groupBy _ _

theorem firstSeen_groups (orders : List Order) :
    FirstSeen (((groups orders).map ofGroup).map (·.locationId)) (seenIds orders) := by
  rw [seenIds_eq]
  simpa [ofGroup, Function.comp_def] using (grouped_groups orders).keys

theorem exists_group {orders : List Order} {location : LocationOrders}
    (present : location ∈ ofOrders orders) :
    ∃ group ∈ groups orders, ofGroup group = location :=
  List.mem_map.mp ((perm_arrange _).mem_iff.mp present)

theorem orders_of_mem {orders : List Order} {entry : LocationOrders}
    (present : entry ∈ ofOrders orders) :
    entry.orders = (orders.filterMap LocatedOrder.ofOrder?).filter fun order =>
      order.location.id = entry.locationId := by
  obtain ⟨group, known, rfl⟩ := exists_group present
  exact (grouped_groups orders).holds group known

/-- Indices come first in ascending order, and then all others as they are first seen. -/
theorem exists_split (orders : List Order) :
    ∃ indices others, (ofOrders orders).map (·.locationId) = indices ++ others ∧
      (∀ id ∈ indices, isIndex id = true) ∧
      (indices.Pairwise fun first second => first.toInt < second.toInt) ∧
      (∀ id ∈ others, isIndex id = false) ∧
      others.Pairwise fun first second =>
        (seenIds orders).idxOf first < (seenIds orders).idxOf second := by
  have firstSeen := firstSeen_groups orders
  have others := others_arrange ((groups orders).map ofGroup)
  refine ⟨((ofOrders orders).filter indexed).map (·.locationId),
    ((ofOrders orders).filter (!indexed ·)).map (·.locationId), ?_, ?_, ?_, ?_, ?_⟩
  · rw [← List.map_append]
    exact congrArg _ (eq_append_of_pairwise (pairwise_arrange _))
  · intro id held
    obtain ⟨location, present, rfl⟩ := List.mem_map.mp held
    exact (List.mem_filter.mp present).2
  · exact List.pairwise_map.mpr (ascending_arrange firstSeen.nodup)
  · intro id held
    obtain ⟨location, present, rfl⟩ := List.mem_map.mp held
    simpa [indexed] using (List.mem_filter.mp present).2
  · change ((ofOrders orders).filter _) = _ at others
    rw [others]
    exact List.pairwise_map.mpr ((List.pairwise_map.mp firstSeen.ordered).filter _)

end LocationOrders

/--
Orders by location are the values of an object that holds them under the numerals of their
locations. So each location occurs once; indices of arrays come first in ascending order and all
other identifiers as they are first seen; a location is named by its first order; and every order
that has a location stands there once, as it came, with its contents.
-/
theorem ordersByLocation_eq_values (orders : List Order) :
    let locations := LocationOrders.ofOrders orders
    let ids := locations.map (·.locationId)
    let seen := orders.filterMap fun order => order.location.map (·.id)
    let isIndex (id : LocationId) : Prop := 0 ≤ id.toInt ∧ id.toInt ≤ 4294967294
    locations = Members.values (orders.foldl LocationOrders.put []) ∧
    ids.Nodup ∧
    (∀ id, id ∈ ids ↔ id ∈ seen) ∧
    (∃ indices others, ids = indices ++ others ∧
      (∀ id ∈ indices, isIndex id) ∧
      (indices.Pairwise fun first second => first.toInt < second.toInt) ∧
      (∀ id ∈ others, ¬isIndex id) ∧
      others.Pairwise fun first second => seen.idxOf first < seen.idxOf second) ∧
    (locations.flatMap (·.orders)).Perm (orders.filterMap LocatedOrder.ofOrder?) ∧
    ∀ entry ∈ locations,
      entry.orders.head?.map (·.location.name) = some entry.locationName ∧
      entry.orders = orders.filterMap fun order => order.location.bind fun location =>
        if location.id = entry.locationId then
          some {
            id := order.id
            characterId := order.characterId
            characterName := order.characterName
            createdAt := order.createdAt
            fulfilledAt := order.fulfilledAt
            location := location
            neededBy := order.neededBy
            items := order.items
            producers := order.assignees.map fun assignee => ⟨assignee.id, assignee.name⟩ }
        else none := by
  intro locations ids seen isIndex
  have firstSeen := LocationOrders.firstSeen_groups orders
  have arranged : ids.Perm (((LocationOrders.groups orders).map LocationOrders.ofGroup).map
      (·.locationId)) := (LocationOrders.perm_arrange _).map _
  refine ⟨?_, arranged.nodup_iff.mpr firstSeen.nodup, fun id => ?_, ?_, ?_, fun entry present => ?_⟩
  · rw [LocationOrders.foldl_put]
    have built := LocationOrders.values_members firstSeen.nodup
    rw [List.map_map] at built
    exact built.symm
  · exact arranged.mem_iff.trans (firstSeen.mem id)
  · obtain ⟨indices, others, split, kind, ascending, kind', ordered⟩ :=
      LocationOrders.exists_split orders
    refine ⟨indices, others, split, fun id held => ?_, ascending, fun id held index => ?_, ordered⟩
    · exact (LocationOrders.isIndex_iff id).mp (kind id held)
    · exact absurd ((LocationOrders.isIndex_iff id).mpr index) (by simp [kind' id held])
  · refine ((LocationOrders.perm_arrange _).flatMap_right _).trans ?_
    rw [List.flatMap_map]
    exact (LocationOrders.grouped_groups orders).perm
  · have orders_eq := LocationOrders.orders_of_mem present
    obtain ⟨group, _, rfl⟩ := LocationOrders.exists_group present
    refine ⟨rfl, orders_eq.trans ?_⟩
    rw [List.filter_filterMap]
    refine List.filterMap_congr fun order _ => ?_
    cases found : order.location with
    | none => simp [LocatedOrder.ofOrder?, found]
    | some location =>
      by_cases same : location.id = group.key <;>
        simp [LocatedOrder.ofOrder?, found, LocationOrders.ofGroup, same, Option.filter]

end Industry

end Quartermaster

import Quartermaster.Proofs.Fleet.SystemGroups

/-!
The two compositions of a fleet, by ship and by solar system. They split one roster by different
keys, the one at once and the other through an exchange, and show the same pilots, each as often
as the roster names them (`compositions_perm_roster`).
-/

namespace Quartermaster.Fleet

open Api (Exchange Failure Platform)

variable {platform : Platform} {sunTypes : SunTypes} {members : List Member}
  {staging : Option SolarSystemId} {κ : Type} [DecidableEq κ]

/-- However the members are grouped, the groups show the pilots of the roster. -/
theorem perm_pilots (key : Member → κ) (members : List Member) :
    ((groupBy key members).flatMap fun group => group.items.map Member.pilot).Perm
      (members.map Member.pilot) := by
  rw [← List.map_flatMap]
  exact (grouped_groupBy key members).perm.map _

/-! ### By ship -/

theorem perm_shipGroups (members : List Member) :
    ((shipGroups members).flatMap (·.members)).Perm (members.map Member.pilot) := by
  rw [shipGroups, List.flatMap_map]
  exact perm_pilots Member.shipTypeId members

theorem firstSeen_shipGroups (members : List Member) :
    FirstSeen ((shipGroups members).map (·.shipTypeId)) (members.map (·.shipTypeId)) := by
  rw [shipGroups, List.map_map]
  exact (grouped_groupBy Member.shipTypeId members).keys

/-- A type of ship is named by its first pilot and shows all of them. -/
theorem shipGroup_of_mem {ship : ShipGroup} (present : ship ∈ shipGroups members) :
    (members.filter (·.shipTypeId = ship.shipTypeId)).head?.map (·.shipTypeName) =
        some ship.shipTypeName ∧
      ship.members = (members.filter (·.shipTypeId = ship.shipTypeId)).map Member.pilot := by
  obtain ⟨group, member, rfl⟩ := List.mem_map.mp present
  have held := (grouped_groupBy Member.shipTypeId members).holds group member
  constructor
  · rw [← held]
    rfl
  · rw [← held]

/-! ### By solar system -/

/-- The group of a system shows the pilots in it, whatever its route is. -/
theorem members_of_systemGroup {destination : SolarSystemId} {group : Group SolarSystemId Member}
    {entry : SystemGroup}
    (yields : (systemGroup platform sunTypes destination group).outcome = .ok entry) :
    entry.members = group.items.map Member.pilot := by
  cases found : (routeFrom platform destination group.key).outcome with
  | error failure =>
    rw [outcome_systemGroup_of_error sunTypes found] at yields
    cases yields
  | ok route =>
    have complete := (Exchange.bind_of_ok found).1.symm.trans yields
    cases complete
    rfl

theorem flatMap_members_of_systemGroups {destination : SolarSystemId}
    {groups : List (Group SolarSystemId Member)} {systems : List SystemGroup}
    (each : List.Forall₂ (fun group entry =>
      (systemGroup platform sunTypes destination group).outcome = .ok entry) groups systems) :
    systems.flatMap (·.members) = groups.flatMap fun group => group.items.map Member.pilot := by
  induction each with
  | nil => rfl
  | cons here _ ih => rw [List.flatMap_cons, List.flatMap_cons, members_of_systemGroup here, ih]

theorem perm_systemGroups {systems : List SystemGroup}
    (yields : (systemGroups platform sunTypes members staging).outcome = .ok systems) :
    (systems.flatMap (·.members)).Perm (members.map Member.pilot) := by
  have each := Exchange.outcome_together_map_eq_ok.mp yields
  rw [flatMap_members_of_systemGroups each]
  exact perm_pilots Member.solarSystemId members

/--
Both compositions of a fleet show the pilots of its roster, by identifier and name and as often as
they occur. By ship they stand under distinct types in first-seen order, each named by its first
pilot, in the order of the roster.
-/
theorem compositions_perm_roster (platform : Platform) (sunTypes : SunTypes)
    (members : List Member) (staging : Option SolarSystemId) :
    let roster : List Pilot := members.map fun member => ⟨member.characterId, member.characterName⟩
    let ships := shipGroups members
    (∀ systems, (systemGroups platform sunTypes members staging).outcome = .ok systems →
      (systems.flatMap (·.members)).Perm roster ∧
      (systems.flatMap (·.members)).Perm (ships.flatMap (·.members))) ∧
    (ships.flatMap (·.members)).Perm roster ∧
    (ships.map (·.shipTypeId)).Nodup ∧
    FirstSeen (ships.map (·.shipTypeId)) (members.map (·.shipTypeId)) ∧
    ∀ ship ∈ ships,
      let own := members.filter (·.shipTypeId = ship.shipTypeId)
      own.head?.map (·.shipTypeName) = some ship.shipTypeName ∧
      ship.members = own.map fun member => ⟨member.characterId, member.characterName⟩ := by
  intro roster ships
  have byShip : (ships.flatMap (·.members)).Perm roster := perm_shipGroups members
  have firstSeen := firstSeen_shipGroups members
  refine ⟨fun systems yields => ?_, byShip, firstSeen.nodup, firstSeen, ?_⟩
  · have bySystem : (systems.flatMap (·.members)).Perm roster := perm_systemGroups yields
    exact ⟨bySystem, bySystem.trans byShip.symm⟩
  · intro ship present
    exact shipGroup_of_mem present

end Quartermaster.Fleet

import Mathlib.Data.List.Perm.Basic
import Quartermaster.Freight.Contract
import Quartermaster.Proofs.Grouping

/-!
Freight contracts by where they start and where they end. Grouping the valid contracts twice loses
none of them and puts none in a wrong place; both levels stand in the order of the valid contracts.
-/

namespace Quartermaster.Freight

variable {contracts : List Contract} {destinations : List DestinationContracts}
  {origins : List OriginContracts}

/-- The contracts of one origin, split by where they end. -/
structure SplitByEnd (contracts : List Contract) (destinations : List DestinationContracts) :
    Prop where
  names : FirstSeen (destinations.map (·.locationName)) (contracts.map Contract.endName)
  holds : ∀ destination ∈ destinations,
    destination.contracts = contracts.filter (·.endName = destination.locationName)
  nonempty : ∀ destination ∈ destinations, destination.contracts ≠ []
  perm : (destinations.flatMap (·.contracts)).Perm contracts

theorem splitByEnd_ofContracts (contracts : List Contract) :
    SplitByEnd contracts (DestinationContracts.ofContracts contracts) := by
  have grouped := grouped_groupBy Contract.endName contracts
  constructor
  · simpa [DestinationContracts.ofContracts, Function.comp_def] using grouped.keys
  · intro destination member
    obtain ⟨group, present, rfl⟩ := List.mem_map.mp member
    exact grouped.holds group present
  · intro destination member
    obtain ⟨group, _, rfl⟩ := List.mem_map.mp member
    exact group.items_ne_nil
  · simpa [DestinationContracts.ofContracts, List.flatMap_map] using grouped.perm

theorem SplitByEnd.ne_nil (split : SplitByEnd contracts destinations) (some : contracts ≠ []) :
    destinations ≠ [] := by
  rintro rfl
  exact some (List.nil_perm.mp (by simpa using split.perm))

/-- Contracts split by where they start, and those of each origin by where they end. -/
structure SplitByStart (contracts : List Contract) (origins : List OriginContracts) : Prop where
  names : FirstSeen (origins.map (·.locationName)) (contracts.map Contract.startName)
  nonempty : ∀ origin ∈ origins, origin.destinations ≠ []
  split : ∀ origin ∈ origins,
    SplitByEnd (contracts.filter (·.startName = origin.locationName)) origin.destinations
  perm : (origins.flatMap fun origin => origin.destinations.flatMap (·.contracts)).Perm contracts

theorem splitByStart_ofContracts (contracts : List Contract) :
    SplitByStart (contracts.filter Contract.hasValidIssuer)
      (OriginContracts.ofContracts contracts) := by
  have grouped := grouped_groupBy Contract.startName (contracts.filter Contract.hasValidIssuer)
  constructor
  · simpa [OriginContracts.ofContracts, Function.comp_def] using grouped.keys
  · intro origin member
    obtain ⟨group, _, rfl⟩ := List.mem_map.mp member
    exact (splitByEnd_ofContracts group.items).ne_nil group.items_ne_nil
  · intro origin member
    obtain ⟨group, present, rfl⟩ := List.mem_map.mp member
    rw [← grouped.holds group present]
    exact splitByEnd_ofContracts group.items
  · -- each origin holds its group's contracts, and the groups together hold all contracts
    simp only [OriginContracts.ofContracts, List.flatMap_map]
    refine (List.Perm.flatMap_left _ fun group _ => ?_).trans grouped.perm
    exact (splitByEnd_ofContracts group.items).perm

/--
Grouping contracts by origin and destination is a lossless partition of those with a valid issuer:
every one of them stands once under its own two names, names are distinct and in the order in which
the valid contracts name them, nothing is empty, and the other contracts make no difference.
-/
theorem contractsByOrigin_partition (contracts : List Contract) :
    let isValid (contract : Contract) : Bool := contract.issuerId.any (0 < ·)
    let valid := contracts.filter isValid
    let origins := OriginContracts.ofContracts contracts
    (origins.flatMap fun origin => origin.destinations.flatMap (·.contracts)).Perm valid ∧
    (origins.map (·.locationName)).Nodup ∧
    FirstSeen (origins.map (·.locationName)) (valid.map (·.startName)) ∧
    (∀ origin ∈ origins,
      origin.destinations ≠ [] ∧
      (origin.destinations.map (·.locationName)).Nodup ∧
      FirstSeen (origin.destinations.map (·.locationName))
        ((valid.filter (·.startName = origin.locationName)).map (·.endName)) ∧
      ∀ destination ∈ origin.destinations,
        destination.contracts ≠ [] ∧
        destination.contracts = valid.filter fun contract =>
          contract.startName = origin.locationName ∧
            contract.endName = destination.locationName) ∧
    ∀ others : List Contract, others.filter isValid = valid →
      OriginContracts.ofContracts others = origins := by
  intro isValid valid origins
  have split : SplitByStart valid origins := splitByStart_ofContracts contracts
  refine ⟨split.perm, split.names.nodup, split.names, fun origin member => ?_, fun others same => ?_⟩
  · have ends := split.split origin member
    refine ⟨split.nonempty origin member, ends.names.nodup, ends.names, fun destination held => ?_⟩
    refine ⟨ends.nonempty destination held, ?_⟩
    rw [ends.holds destination held, List.filter_filter]
    refine List.filter_congr fun contract _ => ?_
    rw [Bool.decide_and, Bool.and_comm]
  · change (groupBy Contract.startName (others.filter isValid)).map _ = _
    rw [same]
    rfl

end Quartermaster.Freight

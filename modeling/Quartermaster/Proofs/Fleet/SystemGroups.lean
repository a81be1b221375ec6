import Quartermaster.Fleet.Queries
import Quartermaster.Proofs.Api.Exchange
import Quartermaster.Proofs.Api.Together
import Quartermaster.Proofs.Grouping.Partition

/-!
The members of a fleet by solar system. One route is asked for from each system, all of them
together; a group keeps the members of its system and what is known of it, and without an answer to
each of the questions there are no groups at all (`systemGroups_by_route`).
-/

namespace Quartermaster.Fleet

open Api (Exchange Failure Platform Settings)
open Http (Draft Request)

variable {platform : Platform} {sunTypes : SunTypes} {members : List Member}
  {destination : SolarSystemId} {route : List SolarSystemId}

/-- A route has one jump less than systems, as far as 32 bits can count them. -/
theorem toNat_jumps? (route : List SolarSystemId) :
    (jumps? route).map UInt32.toNat =
      if route = [] ∨ UInt32.size < route.length then none else some (route.length - 1) := by
  cases route with
  | nil => rfl
  | cons first rest =>
    by_cases fits : rest.length < UInt32.size
    · have within : ¬UInt32.size < rest.length + 1 := Nat.not_lt.mpr fits
      simp only [jumps?, if_pos fits, Option.map_some, UInt32.toNat_ofNat_of_lt' fits,
        List.length_cons, reduceCtorEq, within, or_self, if_false, Nat.add_sub_cancel]
    · have beyond : UInt32.size < rest.length + 1 := Nat.lt_succ_of_le (Nat.le_of_not_lt fits)
      simp [jumps?, fits, beyond]

/-! ### One system -/

/--
The group of a system of some members, by the route from there: it is named by the first member in
it and holds all members in it, in order and by name.
-/
structure Located (sunTypes : SunTypes) (members : List Member) (system : SolarSystemId)
    (route : List SolarSystemId) (entry : SystemGroup) : Prop where
  id : entry.solarSystemId = system
  name : (members.filter (·.solarSystemId = system)).head?.map (·.solarSystemName) =
    some entry.solarSystemName
  sunType : entry.sunTypeId = sunTypes.get? system
  jumps : entry.jumps.map UInt32.toNat =
    if route = [] ∨ UInt32.size < route.length then none else some (route.length - 1)
  members : entry.members = (members.filter (·.solarSystemId = system)).map fun member =>
    ⟨member.characterId, member.characterName⟩

def routeFrom (platform : Platform) (destination system : SolarSystemId) :
    Exchange Failure (List SolarSystemId) :=
  platform.askRouting (SolarSystem.Endpoints.route system destination)

def routeRequest? (platform : Platform) (destination system : SolarSystemId) : Option Request :=
  (Draft.get (platform.settings.esiUrl ++
    ("/route/" ++ system.text ++ "/" ++ destination.text ++ "/"))).build?

theorem sent_routeFrom (platform : Platform) (destination system : SolarSystemId) :
    (routeFrom platform destination system).sent =
      (routeRequest? platform destination system).toList :=
  Api.sent_call_eq _ _ _

theorem exists_routeRequest? {system : SolarSystemId}
    (answered : (routeFrom platform destination system).outcome = .ok route) :
    ∃ request, routeRequest? platform destination system = some request := by
  have built := Api.exists_request?_of_call answered
  exact built

section Group

variable {group : Group SolarSystemId Member}

theorem sent_systemGroup (platform : Platform) (sunTypes : SunTypes) (destination : SolarSystemId)
    (group : Group SolarSystemId Member) :
    (systemGroup platform sunTypes destination group).sent =
      (routeRequest? platform destination group.key).toList := by
  rw [← sent_routeFrom]
  cases found : (routeFrom platform destination group.key).outcome with
  | error failure => exact (Exchange.bind_of_error found).2
  | ok route => exact (Exchange.bind_of_ok found).2.trans (List.append_nil _)

theorem outcome_systemGroup_of_error (sunTypes : SunTypes) {failure : Failure}
    (failed : (routeFrom platform destination group.key).outcome = .error failure) :
    (systemGroup platform sunTypes destination group).outcome = .error failure :=
  (Exchange.bind_of_error failed).1

theorem error_of_outcome_systemGroup {failure : Failure}
    (failed : (systemGroup platform sunTypes destination group).outcome = .error failure) :
    (routeFrom platform destination group.key).outcome = .error failure := by
  cases found : (routeFrom platform destination group.key).outcome with
  | error failure' =>
    rw [outcome_systemGroup_of_error sunTypes found] at failed
    exact congrArg _ (Except.error.inj failed)
  | ok route =>
    have succeeded := (Exchange.bind_of_ok found).1.symm.trans failed
    cases succeeded

theorem located_systemGroup
    (held : group.items = members.filter fun member => member.solarSystemId = group.key)
    (answered : (routeFrom platform destination group.key).outcome = .ok route) :
    ∃ entry, (systemGroup platform sunTypes destination group).outcome = .ok entry ∧
      Located sunTypes members group.key route entry := by
  refine ⟨_, (Exchange.bind_of_ok answered).1, rfl, ?_, rfl, toNat_jumps? route, ?_⟩
  · rw [← held]
    rfl
  · rw [← held]
    rfl

end Group

/-! ### All systems -/

/-- The systems of some members, each once, in the order in which they are first seen. -/
def systemsOf (members : List Member) : List SolarSystemId :=
  (members.map (·.solarSystemId)).eraseDups

theorem keys_groupBy_solarSystemId (members : List Member) :
    (groupBy Member.solarSystemId members).map Group.key = systemsOf members :=
  (grouped_groupBy Member.solarSystemId members).keys.eq (firstSeen_eraseDups _)

theorem forall₂_flatMap_toList {α β : Type} {part : α → Option β} {items : List α}
    (each : ∀ item ∈ items, ∃ value, part item = some value) :
    List.Forall₂ (fun item value => part item = some value) items
      (items.flatMap fun item => (part item).toList) := by
  induction items with
  | nil => exact .nil
  | cons item rest ih =>
    obtain ⟨value, here⟩ := each item List.mem_cons_self
    have later := ih fun other member => each other (.tail _ member)
    rw [List.flatMap_cons, here]
    exact .cons here later

section All

variable {staging : Option SolarSystemId}

theorem sent_systemGroups (platform : Platform) (sunTypes : SunTypes) (members : List Member)
    (staging : Option SolarSystemId) :
    (systemGroups platform sunTypes members staging).sent =
      (systemsOf members).flatMap fun system =>
        (routeRequest? platform (staging.getD defaultStaging) system).toList := by
  rw [systemGroups, Exchange.sent_together, ← keys_groupBy_solarSystemId, List.flatMap_map,
    List.flatMap_map]
  simp only [sent_systemGroup]

/-- With a route from each system there is a complete group of each. -/
theorem located_systemGroups
    (answered : ∀ system ∈ systemsOf members, ∃ route,
      (routeFrom platform (staging.getD defaultStaging) system).outcome = .ok route) :
    ∃ entries, (systemGroups platform sunTypes members staging).outcome = .ok entries ∧
      List.Forall₂ (fun system entry => ∃ route,
        (routeFrom platform (staging.getD defaultStaging) system).outcome = .ok route ∧
          Located sunTypes members system route entry) (systemsOf members) entries := by
  have grouped := grouped_groupBy Member.solarSystemId members
  have each : ∀ group ∈ groupBy Member.solarSystemId members, ∃ entry,
      (systemGroup platform sunTypes (staging.getD defaultStaging) group).outcome = .ok entry ∧
        ∃ route, (routeFrom platform (staging.getD defaultStaging) group.key).outcome = .ok route ∧
          Located sunTypes members group.key route entry := by
    intro group member
    have listed : group.key ∈ systemsOf members := by
      rw [← keys_groupBy_solarSystemId]
      exact List.mem_map.mpr ⟨group, member, rfl⟩
    obtain ⟨route, yields⟩ := answered group.key listed
    obtain ⟨entry, complete, located⟩ := located_systemGroup (grouped.holds group member) yields
    exact ⟨entry, complete, route, yields, located⟩
  obtain ⟨entries, complete⟩ := Exchange.exists_forall₂ each
  refine ⟨entries, Exchange.outcome_together_map_eq_ok.mpr ?_, ?_⟩
  · exact complete.imp fun _ _ both => both.1
  · rw [← keys_groupBy_solarSystemId, List.forall₂_map_left_iff]
    exact complete.imp fun _ _ both => both.2

/-- One route that fails leaves no groups; the failure is that of a route. -/
theorem failed_systemGroups (sunTypes : SunTypes) {system : SolarSystemId} {failure : Failure}
    (present : system ∈ systemsOf members)
    (failed : (routeFrom platform (staging.getD defaultStaging) system).outcome =
      .error failure) :
    ∃ failure, (systemGroups platform sunTypes members staging).outcome = .error failure ∧
      ∃ system ∈ systemsOf members,
        (routeFrom platform (staging.getD defaultStaging) system).outcome = .error failure := by
  rw [← keys_groupBy_solarSystemId] at present ⊢
  obtain ⟨group, member, rfl⟩ := List.mem_map.mp present
  obtain ⟨counting, fails⟩ := Exchange.exists_failure_of_mem
    (List.mem_map.mpr ⟨group, member, rfl⟩) (outcome_systemGroup_of_error sunTypes failed)
  obtain ⟨exchange, among, blamed⟩ := Exchange.exists_of_outcome_together fails
  obtain ⟨other, listed, rfl⟩ := List.mem_map.mp among
  refine ⟨counting, fails, other.key, List.mem_map.mpr ⟨other, listed, rfl⟩, ?_⟩
  exact error_of_outcome_systemGroup blamed

end All

/--
Members by solar system, with the routes of all systems asked for together: a request for each
distinct system in first-seen order; if all are answered, a group for each system, complete and
with its own route; and if one of them fails, no group but the failure of a route.
-/
theorem systemGroups_by_route (platform : Platform) (sunTypes : SunTypes) (members : List Member)
    (staging : Option SolarSystemId) :
    let destination : SolarSystemId := staging.getD ⟨30003070⟩
    let systems := (members.map (·.solarSystemId)).eraseDups
    let answered (system : SolarSystemId) :=
      platform.askRouting (SolarSystem.Endpoints.route system destination)
    let request? (system : SolarSystemId) : Option Request :=
      (Draft.get (platform.settings.esiUrl ++
        ("/route/" ++ system.text ++ "/" ++ destination.text ++ "/"))).build?
    let result := systemGroups platform sunTypes members staging
    FirstSeen systems (members.map (·.solarSystemId)) ∧
    result.sent = systems.flatMap (fun system => (request? system).toList) ∧
    ((∀ system ∈ systems, ∃ route, (answered system).outcome = .ok route) →
      List.Forall₂ (fun system request => request? system = some request) systems result.sent ∧
      ∃ entries, result.outcome = .ok entries ∧
        List.Forall₂ (fun system entry => ∃ route, (answered system).outcome = .ok route ∧
          Located sunTypes members system route entry) systems entries) ∧
    ∀ system ∈ systems, ∀ failure, (answered system).outcome = .error failure →
      ∃ failure, result.outcome = .error failure ∧ failure.label = "Error fetching route" ∧
        ∃ system ∈ systems, (answered system).outcome = .error failure := by
  intro destination systems answered request? result
  have sent : result.sent = systems.flatMap fun system => (request? system).toList :=
    sent_systemGroups platform sunTypes members staging
  refine ⟨firstSeen_eraseDups _, sent, fun succeed => ⟨?_, located_systemGroups succeed⟩, ?_⟩
  · have asked : ∀ system ∈ systems, ∃ request, request? system = some request := by
      intro system member
      obtain ⟨route, yields⟩ := succeed system member
      exact exists_routeRequest? yields
    exact sent ▸ forall₂_flatMap_toList asked
  · intro system member failure failed
    obtain ⟨counting, fails, other, present, blamed⟩ := failed_systemGroups sunTypes member failed
    exact ⟨counting, fails, Api.label_of_call blamed, other, present, blamed⟩

/-- Three members in two systems, with a route of two systems from each. -/
theorem systemGroups_by_route_twoSystems :
    let settings : Settings :=
      ⟨"", none, "", false, true, "", "", none, none, none, none, "http://localhost", none⟩
    let route : Http.Reply := .response ⟨200, by decide⟩ (Text.utf8 "[30000142,30003070]".toList)
    let platform : Platform := ⟨settings, ⟨fun _ => route, fun _ => 0⟩⟩
    let members : List Member :=
      [⟨⟨1⟩, "Ada", ⟨587⟩, "Rifter", ⟨30000142⟩, "Jita"⟩,
        ⟨⟨2⟩, "Bo", ⟨587⟩, "Rifter", ⟨30002539⟩, "Amamake"⟩,
        ⟨⟨3⟩, "Cy", ⟨11987⟩, "Guardian", ⟨30000142⟩, "Jita"⟩]
    let result := systemGroups platform .empty members none
    result.sent.length = 2 ∧ ∃ entries, result.outcome = .ok entries ∧ entries.length = 2 := by
  intro settings reply platform members result
  have replied : ∀ system ∈ (members.map (·.solarSystemId)).eraseDups,
      (platform.askRouting
        (SolarSystem.Endpoints.route system ⟨30003070⟩)).outcome.toOption.isSome := by
    decide +kernel
  have answered : ∀ system ∈ (members.map (·.solarSystemId)).eraseDups, ∃ route,
      (platform.askRouting
        (SolarSystem.Endpoints.route system ⟨30003070⟩)).outcome = .ok route := by
    intro system member
    have yields := replied system member
    generalize (platform.askRouting _).outcome = outcome at yields ⊢
    cases outcome with
    | error failure => cases yields
    | ok route => exact ⟨route, rfl⟩
  obtain ⟨-, -, succeed, -⟩ := systemGroups_by_route platform .empty members none
  obtain ⟨sent, entries, complete, each⟩ := succeed answered
  exact ⟨sent.length_eq.symm, entries, complete, each.length_eq.symm⟩

end Quartermaster.Fleet

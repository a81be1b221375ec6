import Quartermaster.Proofs.Freight.CalculatorTables

/-!
Which routes are found again in the tables of the freight calculator. A table holds one route under
a key, so of routes that share a lane only the last one is found (`Calculator.reachable_iff`); the
others are lost, although they are still offered and not named among the omitted ones. No route is
lost just when different routes have no key in common (`noRouteLost_iff_keysApart`).
-/

namespace Quartermaster.Freight

open Api (Exchange Failure Platform)

/-- Under a key the tables hold the identifier of a route and its own sizes. -/
structure LeadsTo (locale : Locale) (tables : Calculator) (key : String) (route : Route)
    (options : List RouteOption) : Prop where
  routeId : tables.routeIds.get? key = some route.id
  sizes : ∃ choices, tables.sizes.get? key = some choices ∧
    List.Forall₂ (Labelled locale) options choices

/-- A route is found from its origin and, if it is travelled both ways, from its destination. -/
structure Reachable (locale : Locale) (tables : Calculator) (route : Route)
    (options : List RouteOption) : Prop where
  there : LeadsTo locale tables
    (laneKey route.origin.locationId route.destination.locationId) route options
  back : route.bidirectional = true → LeadsTo locale tables
    (laneKey route.destination.locationId route.origin.locationId) route options

/-- A listed route is not lost: it is named among the omitted ones or can be found. -/
def NotLost (locale : Locale) (tables : Calculator) (entry : Route × Option (List RouteOption)) :
    Prop :=
  entry.1.id ∈ tables.omitted ∨
    ∃ options, entry.2 = some options ∧ Reachable locale tables entry.1 options

/-- No lane of the one route has the key of a lane of the other. -/
def KeysApart (first second : Route × Option (List RouteOption)) : Prop :=
  ∀ lane ∈ Calculator.lanes [first], ∀ later ∈ Calculator.lanes [second], later.key ≠ lane.key

/-! ### The lanes of a route -/

variable {locale : Locale} {tables : Calculator} {route : Route} {options : List RouteOption}
  {lane : Lane}

theorem Route.of_mem_lanes (own : lane ∈ route.lanes options) :
    lane.routeId = route.id ∧ lane.options = options := by
  unfold Route.lanes at own
  split at own
  · rcases List.mem_pair.mp own with rfl | rfl
    · exact ⟨rfl, rfl⟩
    · exact ⟨rfl, rfl⟩
  · obtain rfl := List.mem_singleton.mp own
    exact ⟨rfl, rfl⟩

theorem reachable_iff_lanes :
    Reachable locale tables route options ↔
      ∀ lane ∈ route.lanes options, LeadsTo locale tables lane.key route options := by
  cases both : route.bidirectional with
  | true =>
    simp only [Route.lanes, both, if_true]
    rw [List.forall_mem_cons, List.forall_mem_singleton]
    constructor
    · rintro ⟨there, back⟩
      exact ⟨there, back both⟩
    · rintro ⟨there, back⟩
      exact ⟨there, fun _ => back⟩
  | false =>
    simp only [Route.lanes, both, Bool.false_eq_true, if_false]
    rw [List.forall_mem_singleton]
    constructor
    · exact Reachable.there
    · intro there
      exact ⟨there, fun both' => by simp [both] at both'⟩

namespace Calculator

variable {listed before after : List (Route × Option (List RouteOption))}
  {entry : Route × Option (List RouteOption)}

theorem lanes_append (first second : List (Route × Option (List RouteOption))) :
    lanes (first ++ second) = lanes first ++ lanes second := List.flatMap_append

theorem routeId_of_mem_lanes (member : lane ∈ lanes listed) :
    lane.routeId ∈ listed.map fun (route, _) => route.id := by
  obtain ⟨⟨route, known⟩, present, own⟩ := List.mem_flatMap.mp member
  cases known with
  | none => cases own
  | some options =>
    rw [(Route.of_mem_lanes own).1]
    exact List.mem_map_of_mem present

theorem mem_omitted_iff (built : ofRoutes locale listed = .ok tables)
    (distinct : (listed.map fun (route, _) => route.id).Nodup) (present : entry ∈ listed) :
    entry.1.id ∈ tables.omitted ↔ entry.2 = none := by
  obtain ⟨sizes, rfl, -⟩ := exists_ofLanes built
  change entry.1.id ∈ unknown listed ↔ _
  rw [unknown_eq_filter]
  constructor
  · intro omitted
    obtain ⟨other, among, same⟩ := List.mem_map.mp omitted
    obtain ⟨listed', isNone⟩ := List.mem_filter.mp among
    have equal : other = entry := List.inj_on_of_nodup_map distinct listed' present same
    simpa [equal] using isNone
  · intro isNone
    exact List.mem_map.mpr ⟨entry, List.mem_filter.mpr ⟨present, by simp [isNone]⟩, rfl⟩

section Listed

variable (built : ofRoutes locale (before ++ (route, some options) :: after) = .ok tables)
  (distinct : ((before ++ (route, some options) :: after).map fun (route, _) => route.id).Nodup)

include built distinct

/-- The key of a lane leads to its route unless a later route has a lane with this key. -/
theorem leadsTo_iff (own : lane ∈ route.lanes options) :
    LeadsTo locale tables lane.key route options ↔ ∀ later ∈ lanes after, later.key ≠ lane.key := by
  have whole : lanes (before ++ (route, some options) :: after) =
      lanes before ++ (route.lanes options ++ lanes after) := lanes_append _ _
  have among : lane ∈ route.lanes options ++ lanes after := List.mem_append_left _ own
  have chosen : lane.key ∈ tables.routes.map (·.value) := by
    rw [mem_routes_iff built, whole]
    exact List.mem_map_of_mem (List.mem_append_right _ among)
  obtain ⟨last, choices, isLast, routeId, found, labelled, -⟩ := exists_last_lane built chosen
  rw [whole] at isLast
  constructor
  · -- the key leads to the last lane that has it, so that lane is not of a later route
    intro leads later member taken
    rw [← List.append_assoc] at isLast
    have behind : last ∈ lanes after :=
      isLast.mem_right (List.mem_map.mpr ⟨later, member, taken⟩)
    have same : last.routeId = route.id := Option.some.inj (routeId.symm.trans leads.routeId)
    have repeated : route.id ∈ after.map fun (route, _) => route.id :=
      same ▸ routeId_of_mem_lanes behind
    rw [List.map_append, List.map_cons] at distinct
    exact (List.nodup_cons.mp (List.nodup_append.mp distinct).2.1).1 repeated
  · intro free
    have here : last ∈ route.lanes options ++ lanes after :=
      isLast.mem_right (List.mem_map.mpr ⟨lane, among, rfl⟩)
    rcases List.mem_append.mp here with mine | behind
    · obtain ⟨id, sizesKnown⟩ := Route.of_mem_lanes mine
      constructor
      · rw [routeId, id]
      · exact ⟨choices, found, sizesKnown ▸ labelled⟩
    · exact absurd isLast.key_eq (free last behind)

theorem reachable_iff :
    Reachable locale tables route options ↔
      ∀ lane ∈ route.lanes options, ∀ later ∈ lanes after, later.key ≠ lane.key := by
  rw [reachable_iff_lanes]
  constructor
  · intro leads lane own
    exact (leadsTo_iff built distinct own).mp (leads lane own)
  · intro free lane own
    exact (leadsTo_iff built distinct own).mpr (free lane own)

end Listed

theorem notLost_iff (before : List (Route × Option (List RouteOption)))
    (built : ofRoutes locale (before ++ entry :: after) = .ok tables)
    (distinct : ((before ++ entry :: after).map fun (route, _) => route.id).Nodup) :
    NotLost locale tables entry ↔ ∀ later ∈ after, KeysApart entry later := by
  have omitted := mem_omitted_iff built distinct (List.mem_append_right _ List.mem_cons_self)
  obtain ⟨route, known⟩ := entry
  cases known with
  | none =>
    constructor
    · intro _ later _ lane own
      cases own
    · intro _
      exact .inl (omitted.mpr rfl)
  | some options =>
    have found := reachable_iff built distinct
    have own : lanes [(route, some options)] = route.lanes options := List.append_nil _
    constructor
    · rintro (isOmitted | ⟨_, ⟨⟩, reachable⟩)
      · cases omitted.mp isOmitted
      · intro later member lane mine other behind
        apply found.mp reachable lane (own ▸ mine)
        exact List.mem_flatMap.mpr ⟨later, member, by simpa [lanes] using behind⟩
    · intro apart
      refine .inr ⟨options, rfl, found.mpr ?_⟩
      intro lane mine other behind
      obtain ⟨later, member, held⟩ := List.mem_flatMap.mp behind
      exact apart later member lane (own ▸ mine) other (by simpa [lanes] using held)

/-- The routes of the end of a listing are not lost just when they have no key in common. -/
theorem notLost_iff_pairwise (before : List (Route × Option (List RouteOption)))
    (built : ofRoutes locale (before ++ after) = .ok tables)
    (distinct : ((before ++ after).map fun (route, _) => route.id).Nodup) :
    (∀ entry ∈ after, NotLost locale tables entry) ↔ after.Pairwise KeysApart := by
  induction after generalizing before with
  | nil => simp
  | cons entry rest ih =>
    have here := notLost_iff before built distinct
    have later := ih (before ++ [entry]) (by simpa using built) (by simpa using distinct)
    rw [List.forall_mem_cons, List.pairwise_cons, here, later]

end Calculator

/--
The calculator has tables unless Spanish has to write a volume that is rounded to the least integer.
In the tables a listed route is omitted just when its sizes are not known, and found otherwise unless
a later route has a lane with the key of one of its own. So no route is lost just when different
routes have no key in common.
-/
theorem noRouteLost_iff_keysApart (platform : Platform) (locale : Locale)
    (listed : List (Route × Option (List RouteOption)))
    (distinct : (listed.map fun (route, _) => route.id).Nodup) :
    ((calculator platform locale).outcome =
      (platform.ask Endpoints.routes).outcome.map fun routes =>
        Calculator.ofRoutes locale <| routes.map fun route =>
          (route, (platform.ask (Endpoints.routeOptions route.id)).outcome.toOption)) ∧
    ((∃ tables, Calculator.ofRoutes locale listed = .ok tables) ↔
      ¬(locale = .spanish ∧ ∃ lane ∈ Calculator.lanes listed, ∃ option ∈ lane.options,
        option.maximumVolume.toInt ≤ -2 ^ 63 + 512)) ∧
    ∀ tables, Calculator.ofRoutes locale listed = .ok tables →
      (∀ before route known after, listed = before ++ (route, known) :: after →
        (route.id ∈ tables.omitted ↔ known = none) ∧
        ∀ options, known = some options →
          (Reachable locale tables route options ↔
            ∀ lane ∈ route.lanes options, ∀ later ∈ Calculator.lanes after,
              later.key ≠ lane.key)) ∧
      ((∀ entry ∈ listed, NotLost locale tables entry) ↔ listed.Pairwise KeysApart) := by
  refine ⟨Calculator.outcome_calculator platform locale,
    Calculator.exists_ofRoutes_eq_ok_iff locale listed, fun tables built => ⟨?_, ?_⟩⟩
  · rintro before route known after rfl
    constructor
    · exact Calculator.mem_omitted_iff built distinct (List.mem_append_right _ List.mem_cons_self)
    · rintro options rfl
      exact Calculator.reachable_iff built distinct
  · exact Calculator.notLost_iff_pairwise [] built distinct

theorem noRouteLost_iff_keysApart_chain :
    let sosala : Place := ⟨⟨10⟩, "Sosala - WATERMELLON", "Sosala"⟩
    let ouroboros : Place := ⟨⟨20⟩, "BWF - Ouroboros", "BWF"⟩
    let amamake : Place := ⟨⟨30⟩, "Amamake - 3 Time Nexus", "Amamake"⟩
    let listed : List (Route × Option (List RouteOption)) :=
      [(⟨⟨1⟩, sosala, ouroboros, false⟩, some [⟨⟨4⟩, 60000⟩]),
        (⟨⟨2⟩, ouroboros, amamake, true⟩, some []), (⟨⟨3⟩, sosala, ouroboros, true⟩, none)]
    (listed.map fun (route, _) => route.id).Nodup ∧
      ∃ tables, Calculator.ofRoutes .spanish listed = .ok tables ∧
        ∀ entry ∈ listed, NotLost .spanish tables entry := by
  intro sosala ouroboros amamake listed
  have distinct : (listed.map fun (route, _) => route.id).Nodup := by decide
  have apart : listed.Pairwise KeysApart := by
    unfold KeysApart
    decide +kernel
  let platform : Platform :=
    ⟨⟨"", none, "", false, true, "", "", none, none, none, none, "", none⟩, .down⟩
  obtain ⟨-, writable, found⟩ := noRouteLost_iff_keysApart platform .spanish listed distinct
  obtain ⟨tables, built⟩ := writable.mpr (by decide)
  exact ⟨distinct, tables, built, (found tables built).2.mpr apart⟩

/-- Two routes with a lane in common: the later one takes the key of the earlier one. -/
theorem route_lost_between_same_places :
    ¬ ∀ listed : List (Route × Option (List RouteOption)),
      (listed.map fun (route, _) => route.id).Nodup →
        ∃ tables, Calculator.ofRoutes .english listed = .ok tables ∧
          ∀ entry ∈ listed, NotLost .english tables entry := by
  intro noneLost
  let sosala : Place := ⟨⟨10⟩, "Sosala - WATERMELLON", "Sosala"⟩
  let ouroboros : Place := ⟨⟨20⟩, "BWF - Ouroboros", "BWF"⟩
  let first : Route × Option (List RouteOption) :=
    (⟨⟨1⟩, sosala, ouroboros, false⟩, some [⟨⟨4⟩, 60000⟩])
  let second : Route × Option (List RouteOption) :=
    (⟨⟨2⟩, sosala, ouroboros, false⟩, some [⟨⟨5⟩, 360000⟩])
  have distinct : ([first, second].map fun (route, _) => route.id).Nodup := by decide
  obtain ⟨tables, built, found⟩ := noneLost [first, second] distinct
  have apart := (Calculator.notLost_iff [] built distinct).mp
    (found first List.mem_cons_self) second List.mem_cons_self
  exact apart ⟨⟨1⟩, sosala, ouroboros, [⟨⟨4⟩, 60000⟩]⟩ List.mem_cons_self
    ⟨⟨2⟩, sosala, ouroboros, [⟨⟨5⟩, 360000⟩]⟩ List.mem_cons_self rfl

end Quartermaster.Freight

import Quartermaster.Freight.Queries
import Quartermaster.Proofs.Each
import Quartermaster.Proofs.Quantity.Grouped
import Quartermaster.Proofs.Table

/-!
The tables of the freight calculator agree with each other: whatever routes are listed and however
asking for their sizes ends, the tables have the keys of the lanes to choose, and what they hold
under a key is that of one lane. They are there unless Spanish has to write a volume that is rounded
to the least integer (`Calculator.exists_ofRoutes_eq_ok_iff`).
-/

namespace Quartermaster.Freight

open Api (Endpoint Exchange Failure Platform)
open Quantity (GroupingError)

/-- A size to choose is that of an option and labelled with its volume. -/
structure Labelled (locale : Locale) (option : RouteOption) (choice : Choice RouteOptionId) :
    Prop where
  label : Quantity.grouped locale (.ofInt option.maximumVolume.toInt) = .ok choice.label
  value : choice.value = option.id

namespace Calculator

/-- The calculator is made of the listed routes, each with what became of asking for its sizes. -/
theorem outcome_calculator (platform : Platform) (locale : Locale) :
    (calculator platform locale).outcome =
      (platform.ask Endpoints.routes).outcome.map fun routes =>
        ofRoutes locale <| routes.map fun route =>
          (route, (platform.ask (Endpoints.routeOptions route.id)).outcome.toOption) := by
  change (Exchange.andThen _ fun _ => Exchange.andThen _ fun _ => Exchange.yields _).outcome = _
  simp only [Exchange.outcome_andThen, Exchange.outcome_settleAll, Exchange.outcome_yields]
  cases (platform.ask Endpoints.routes).outcome with
  | error failure => rfl
  | ok routes =>
    have paired (known : Route → Option (List RouteOption)) :
        routes.zip (routes.map known) = routes.map fun route => (route, known route) := by
      simpa using List.zip_map' (f := id) (g := known) (l := routes)
    simp [Except.bind, Except.map, Function.comp_def, paired]

/-! ### Lanes -/

/-- A route is offered from its origin, and then back if it is travelled both ways. -/
theorem lanes_eq_flatMap (listed : List (Route × Option (List RouteOption))) :
    lanes listed = listed.flatMap fun (route, known) =>
      match known with
      | none => []
      | some options =>
        ⟨route.id, route.origin, route.destination, options⟩ ::
          if route.bidirectional then [⟨route.id, route.destination, route.origin, options⟩]
          else [] := by
  refine List.flatMap_congr fun (route, known) _ => ?_
  cases known with
  | none => rfl
  | some options => cases both : route.bidirectional <;> simp [Route.lanes, both]

theorem unknown_eq_filter (listed : List (Route × Option (List RouteOption))) :
    unknown listed = (listed.filter fun (_, known) => known.isNone).map fun (route, _) => route.id := by
  rw [unknown, ← List.filterMap_eq_map, List.filterMap_filter]
  rfl

/-! ### Sizes -/

section Sizes

variable {locale : Locale} {option : RouteOption} {lane : Lane} {error : GroupingError}

theorem label_eq_error_iff (volume : Int64) :
    Quantity.grouped locale (.ofInt volume.toInt) = .error error ↔
      locale = .spanish ∧ volume.toInt ≤ -2 ^ 63 + 512 := by
  rw [Quantity.grouped_eq_error_iff, Double.toInt_roundInt64_ofInt_eq_least_iff]

theorem sizes_eq_ok_iff {choices : List (Choice RouteOptionId)} :
    lane.sizes locale = .ok choices ↔ List.Forall₂ (Labelled locale) lane.options choices := by
  have labelled (option : RouteOption) (choice : Choice RouteOptionId) :
      (Quantity.grouped locale (.ofInt option.maximumVolume.toInt)).map (⟨·, option.id⟩) =
        .ok choice ↔ Labelled locale option choice := by
    rw [map_eq_ok_iff]
    constructor
    · rintro ⟨label, written, rfl⟩
      exact ⟨written, rfl⟩
    · rintro ⟨written, same⟩
      exact ⟨choice.label, written, same ▸ rfl⟩
  simp only [Lane.sizes, mapM_eq_ok_iff, labelled]

theorem exists_sizes_eq_error_iff :
    (∃ error, lane.sizes locale = .error error) ↔
      locale = .spanish ∧ ∃ option ∈ lane.options, option.maximumVolume.toInt ≤ -2 ^ 63 + 512 := by
  rw [Lane.sizes, exists_mapM_eq_error_iff]
  simp only [map_eq_error_iff, label_eq_error_iff]
  constructor
  · rintro ⟨option, offered, -, spanish, least⟩
    exact ⟨spanish, option, offered, least⟩
  · rintro ⟨spanish, option, offered, least⟩
    exact ⟨option, offered, .sizeOverflow, spanish, least⟩

end Sizes

/-! ### Tables -/

variable {locale : Locale} {listed : List (Route × Option (List RouteOption))} {wanted : String}
  {tables : Calculator}

theorem mem_keys_ofLanes {α : Type} (lanes : List Lane) (part : Lane → α) (wanted : String) :
    wanted ∈ (Table.ofEntries (lanes.map fun lane => (lane.key, part lane))).keys ↔
      wanted ∈ (lanes.map Lane.choice).map (·.value) := by
  rw [Table.mem_keys_ofEntries]
  simp [Function.comp_def, Lane.choice]

theorem keys_ofLanes {α β : Type} (lanes : List Lane) (part : Lane → α) (other : Lane → β) :
    (Table.ofEntries (lanes.map fun lane => (lane.key, part lane))).keys =
      (Table.ofEntries (lanes.map fun lane => (lane.key, other lane))).keys :=
  Table.keys_eq_of_mem_iff fun wanted =>
    (mem_keys_ofLanes lanes part wanted).trans (mem_keys_ofLanes lanes other wanted).symm

theorem ofRoutes_eq_map (locale : Locale) (listed : List (Route × Option (List RouteOption))) :
    ofRoutes locale listed =
      ((lanes listed).mapM (Lane.sizes locale)).map fun sizes =>
        ofLanes (lanes listed) sizes (unknown listed) := by
  unfold ofRoutes
  cases (lanes listed).mapM (Lane.sizes locale) <;> rfl

/-- There are tables unless Spanish has to write a volume that is rounded to the least integer. -/
theorem ofRoutes_eq_error_iff :
    ofRoutes locale listed = .error .sizeOverflow ↔
      locale = .spanish ∧ ∃ lane ∈ lanes listed, ∃ option ∈ lane.options,
        option.maximumVolume.toInt ≤ -2 ^ 63 + 512 := by
  have only : (lanes listed).mapM (Lane.sizes locale) = .error .sizeOverflow ↔
      ∃ error, (lanes listed).mapM (Lane.sizes locale) = .error error := by
    constructor
    · intro failed
      exact ⟨_, failed⟩
    · rintro ⟨⟨⟩, failed⟩
      exact failed
  rw [ofRoutes_eq_map, map_eq_error_iff, only, exists_mapM_eq_error_iff]
  simp only [exists_sizes_eq_error_iff]
  constructor
  · rintro ⟨lane, offered, spanish, least⟩
    exact ⟨spanish, lane, offered, least⟩
  · rintro ⟨spanish, lane, offered, least⟩
    exact ⟨lane, offered, spanish, least⟩

theorem exists_ofRoutes_eq_ok_iff (locale : Locale)
    (listed : List (Route × Option (List RouteOption))) :
    (∃ tables, ofRoutes locale listed = .ok tables) ↔
      ¬(locale = .spanish ∧ ∃ lane ∈ lanes listed, ∃ option ∈ lane.options,
        option.maximumVolume.toInt ≤ -2 ^ 63 + 512) := by
  rw [← ofRoutes_eq_error_iff]
  cases ofRoutes locale listed with
  | ok tables => exact iff_of_true ⟨tables, rfl⟩ nofun
  | error error =>
    cases error
    exact iff_of_false nofun fun fits => fits rfl

section Built

variable (built : ofRoutes locale listed = .ok tables)

include built

theorem exists_ofLanes : ∃ sizes, tables = ofLanes (lanes listed) sizes (unknown listed) ∧
    (lanes listed).map (Lane.sizes locale) = sizes.map .ok := by
  rw [ofRoutes_eq_map] at built
  obtain ⟨sizes, each, made⟩ := map_eq_ok_iff.mp built
  exact ⟨sizes, made.symm, mapM_eq_ok_iff_map.mp each⟩

theorem get?_sizes (wanted : String) :
    (tables.sizes.get? wanted).map Except.ok =
      (Table.ofEntries ((lanes listed).map fun lane => (lane.key, lane.sizes locale))).get?
        wanted := by
  obtain ⟨sizes, rfl, each⟩ := exists_ofLanes built
  have entries :
      (((lanes listed).map Lane.key).zip sizes).map (fun entry => (entry.1, Except.ok entry.2)) =
        (lanes listed).map fun lane => (lane.key, lane.sizes locale) := by
    calc
      _ = ((lanes listed).map Lane.key).zip (sizes.map .ok) := (List.zip_map_right ..).symm
      _ = ((lanes listed).map Lane.key).zip ((lanes listed).map (Lane.sizes locale)) := by rw [each]
      _ = _ := List.zip_map' ..
  rw [← entries, Table.get?_ofEntries_map]
  rfl

theorem get?_sizes_iff {choices : List (Choice RouteOptionId)} :
    tables.sizes.get? wanted = some choices ↔
      ∃ lane, LastUnder Lane.key wanted (lanes listed) lane ∧
        List.Forall₂ (Labelled locale) lane.options choices := by
  have held := get?_sizes built wanted
  constructor
  · intro found
    rw [found, Option.map_some, eq_comm, Table.get?_ofEntries_iff] at held
    obtain ⟨lane, last, written⟩ := held
    exact ⟨lane, last, sizes_eq_ok_iff.mp written.symm⟩
  · rintro ⟨lane, last, labelled⟩
    rw [Table.get?_ofEntries last, sizes_eq_ok_iff.mpr labelled] at held
    obtain ⟨_, found, ⟨⟩⟩ := Option.map_eq_some_iff.mp held
    exact found

theorem keys_sizes : tables.sizes.keys = tables.routeIds.keys := by
  obtain ⟨sizes, rfl, each⟩ := exists_ofLanes built
  have many : sizes.length = (lanes listed).length := by
    have same := congrArg List.length each
    rw [List.length_map, List.length_map] at same
    exact same.symm
  refine Table.keys_eq_of_mem_iff fun wanted => ?_
  simp [ofLanes, Table.mem_keys_ofEntries, List.map_fst_zip, many]

theorem mem_routes_iff (wanted : String) :
    wanted ∈ tables.routes.map (·.value) ↔ wanted ∈ (lanes listed).map Lane.key := by
  obtain ⟨sizes, rfl, -⟩ := exists_ofLanes built
  simp [ofLanes, Lane.choice, Function.comp_def]

/-- Under a key to choose, all tables hold what belongs to the last lane with this key. -/
theorem exists_last_lane (chosen : wanted ∈ tables.routes.map (·.value)) :
    ∃ lane choices, LastUnder Lane.key wanted (lanes listed) lane ∧
      tables.routeIds.get? wanted = some lane.routeId ∧
      tables.sizes.get? wanted = some choices ∧
      List.Forall₂ (Labelled locale) lane.options choices ∧
      tables.stations.get? wanted = some lane.stations := by
  obtain ⟨lane, last⟩ := LastUnder.exists_of_mem ((mem_routes_iff built wanted).mp chosen)
  have held := get?_sizes built wanted
  rw [Table.get?_ofEntries last] at held
  obtain ⟨choices, found, written⟩ := Option.map_eq_some_iff.mp held
  obtain ⟨sizes, rfl, -⟩ := exists_ofLanes built
  exact ⟨lane, choices, last, Table.get?_ofEntries last _, found,
    sizes_eq_ok_iff.mp written.symm, Table.get?_ofEntries last _⟩

end Built

end Calculator

/--
The calculator has tables unless Spanish has to write a volume that is rounded to the least integer.
They offer the lanes of the routes whose sizes are answered, in the order of the listing, and name
the other routes. The tables have the keys of these lanes, and what they hold under a key is that of
the last lane with this key.
-/
theorem calculator_tables_agree (platform : Platform) (locale : Locale)
    (listed : List (Route × Option (List RouteOption))) :
    let lanes : List Lane := listed.flatMap fun (route, known) =>
      match known with
      | none => []
      | some options =>
        ⟨route.id, route.origin, route.destination, options⟩ ::
          if route.bidirectional then [⟨route.id, route.destination, route.origin, options⟩]
          else []
    let key (lane : Lane) : String :=
      lane.origin.locationId.text ++ "-" ++ lane.destination.locationId.text
    ((calculator platform locale).outcome =
      (platform.ask Endpoints.routes).outcome.map fun routes =>
        Calculator.ofRoutes locale <| routes.map fun route =>
          (route, (platform.ask (Endpoints.routeOptions route.id)).outcome.toOption)) ∧
    ((∃ tables, Calculator.ofRoutes locale listed = .ok tables) ↔
      ¬(locale = .spanish ∧ ∃ lane ∈ lanes, ∃ option ∈ lane.options,
        option.maximumVolume.toInt ≤ -2 ^ 63 + 512)) ∧
    ∀ tables, Calculator.ofRoutes locale listed = .ok tables →
      tables.omitted =
        (listed.filter fun (_, known) => known.isNone).map (fun (route, _) => route.id) ∧
      tables.routes = lanes.map (fun lane =>
        ⟨lane.origin.shortName ++ " → " ++ lane.destination.shortName, key lane⟩) ∧
      tables.sizes.keys = tables.routeIds.keys ∧
      tables.stations.keys = tables.routeIds.keys ∧
      (∀ wanted, wanted ∈ tables.routeIds.keys ↔ wanted ∈ tables.routes.map (·.value)) ∧
      ∀ wanted ∈ tables.routes.map (·.value), ∃ before lane after choices,
        lanes = before ++ lane :: after ∧
        key lane = wanted ∧
        (∀ later ∈ after, key later ≠ wanted) ∧
        tables.routeIds.get? wanted = some lane.routeId ∧
        tables.sizes.get? wanted = some choices ∧
        List.Forall₂ (Labelled locale) lane.options choices ∧
        tables.stations.get? wanted = some (lane.origin.name, lane.destination.name) := by
  intro lanes key
  have offered : Calculator.lanes listed = lanes := Calculator.lanes_eq_flatMap listed
  have writable := Calculator.exists_ofRoutes_eq_ok_iff locale listed
  rw [offered] at writable
  refine ⟨Calculator.outcome_calculator platform locale, writable, fun tables built => ?_⟩
  have held (wanted : String) (chosen : wanted ∈ tables.routes.map (·.value)) :=
    Calculator.exists_last_lane built chosen
  have keys := Calculator.keys_sizes built
  obtain ⟨sizes, rfl, -⟩ := Calculator.exists_ofLanes built
  refine ⟨Calculator.unknown_eq_filter listed, congrArg (List.map Lane.choice) offered, keys,
    Calculator.keys_ofLanes _ _ _, Calculator.mem_keys_ofLanes _ _, fun wanted chosen => ?_⟩
  obtain ⟨lane, choices, last, routeId, found, labelled, stations⟩ := held wanted chosen
  obtain ⟨before, after, split, apart⟩ := last.split
  exact ⟨before, lane, after, choices, offered.symm.trans split, last.key_eq, apart, routeId, found,
    labelled, stations⟩

/-- In Spanish a volume that is the least integer leaves the calculator without tables. -/
theorem no_tables_with_least_volume :
    ¬ ∀ (locale : Locale) (listed : List (Route × Option (List RouteOption))),
      ∃ tables, Calculator.ofRoutes locale listed = .ok tables := by
  intro always
  let lane : Lane := ⟨⟨1⟩, ⟨⟨10⟩, "Sosala - WATERMELLON", "Sosala"⟩, ⟨⟨20⟩, "BWF - Ouroboros", "BWF"⟩,
    [⟨⟨4⟩, -9223372036854775808⟩]⟩
  have built := always .spanish
    [(⟨lane.routeId, lane.origin, lane.destination, false⟩, some lane.options)]
  apply (Calculator.exists_ofRoutes_eq_ok_iff _ _).mp built
  exact ⟨rfl, lane, List.mem_cons_self, _, List.mem_cons_self, by decide⟩

end Quartermaster.Freight

import Quartermaster.Proofs.Freight.CalculatorTables

/-!
The labels of sizes. A label is made from the double nearest to a volume, so without its marks it
states the volume just when a double holds it; the volumes that are rounded to the same double share
a label (`sizes_labels`).
-/

namespace Quartermaster.Freight

open Api (Platform)

/--
Unless Spanish has to write a volume that is rounded to the least integer, the sizes under a key are
those of the last lane with this key, each labelled with its volume. A label states the volume just
when at most 53 of its binary digits count, or it is the largest; two volumes share a label just when
they are rounded to the same double.
-/
theorem sizes_labels (platform : Platform) (locale : Locale)
    (listed : List (Route × Option (List RouteOption))) :
    let label (volume : Int64) := Quantity.grouped locale (.ofInt volume.toInt)
    ((calculator platform locale).outcome =
      (platform.ask Endpoints.routes).outcome.map fun routes =>
        Calculator.ofRoutes locale <| routes.map fun route =>
          (route, (platform.ask (Endpoints.routeOptions route.id)).outcome.toOption)) ∧
    ((∃ tables, Calculator.ofRoutes locale listed = .ok tables) ↔
      ¬(locale = .spanish ∧ ∃ lane ∈ Calculator.lanes listed, ∃ option ∈ lane.options,
        option.maximumVolume.toInt ≤ -2 ^ 63 + 512)) ∧
    (∀ tables, Calculator.ofRoutes locale listed = .ok tables → ∀ wanted choices,
      tables.sizes.get? wanted = some choices ↔
        ∃ lane, LastUnder Lane.key wanted (Calculator.lanes listed) lane ∧
          List.Forall₂ (Labelled locale) lane.options choices) ∧
    (∀ volume text, label volume = .ok text →
      (text.toList.filter (· ≠ locale.groupMark) = Text.integer volume.toInt ↔
        (∃ significand < 2 ^ 53, ∃ shift, volume.toInt.natAbs = significand * 2 ^ shift) ∨
          volume = Int64.maxValue)) ∧
    ∀ volume other, label volume = label other ↔
      (Double.ofInt volume.toInt).roundInt64 = (Double.ofInt other.toInt).roundInt64 := by
  intro label
  refine ⟨Calculator.outcome_calculator platform locale,
    Calculator.exists_ofRoutes_eq_ok_iff locale listed, ?_, ?_, ?_⟩
  · intro tables built wanted choices
    exact Calculator.get?_sizes_iff built
  · intro volume text written
    exact Quantity.filter_grouped_ofInt_iff written
  · intro volume other
    exact Quantity.grouped_eq_iff

/-- The first volume that no double holds has the label of the one below it. -/
theorem sizes_share_label :
    ¬∀ (locale : Locale) (listed : List (Route × Option (List RouteOption))) (lane : Lane),
      LastUnder Lane.key lane.key (Calculator.lanes listed) lane →
        ((Calculator.ofRoutes locale listed).toOption.bind (·.sizes.get? lane.key)).map
          (fun choices =>
            choices.map fun choice => choice.label.toList.filter (· ≠ locale.groupMark)) =
        some (lane.options.map fun option => Text.integer option.maximumVolume.toInt) := by
  intro states
  let lane : Lane := ⟨⟨1⟩, ⟨⟨10⟩, "Sosala - WATERMELLON", "Sosala"⟩, ⟨⟨20⟩, "BWF - Ouroboros", "BWF"⟩,
    [⟨⟨4⟩, 9007199254740992⟩, ⟨⟨5⟩, 9007199254740993⟩]⟩
  have last : LastUnder Lane.key lane.key ([] ++ [lane]) lane := .found rfl
  have wrong := states .english
    [(⟨lane.routeId, lane.origin, lane.destination, false⟩, some lane.options)] lane last
  revert wrong
  decide +kernel

end Quartermaster.Freight

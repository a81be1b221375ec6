import Quartermaster.Freight.Route
import Quartermaster.Proofs.Text.Numeral

/-!
Keys of lanes. The mark between the identifiers of the two ends is also the sign of a negative one,
but it cannot be mistaken for it: the first numeral goes on until something follows that is no digit,
so that the mark is the first one behind a digit, and any other is a sign (`laneKey_eq_iff`).
-/

namespace Quartermaster.Freight

theorem toList_laneKey (origin destination : LocationId) :
    (laneKey origin destination).toList =
      Text.integer origin.toInt ++ '-' :: Text.integer destination.toInt := by
  simp [laneKey, Identifier.text, Identifier.toInt, Text.int64]

/-- Lanes with one key have the same ends; a lane and the way back only share it on the spot. -/
theorem laneKey_eq_iff (origin destination otherOrigin otherDestination : LocationId) :
    (laneKey origin destination = laneKey otherOrigin otherDestination ↔
      origin = otherOrigin ∧ destination = otherDestination) ∧
    (laneKey origin destination = laneKey destination origin ↔ origin = destination) := by
  have ends {a b c d : LocationId} (same : laneKey a b = laneKey c d) : a = c ∧ b = d := by
    have texts := congrArg String.toList same
    rw [toList_laneKey, toList_laneKey] at texts
    -- the mark is no digit, so both first numerals stop there
    obtain ⟨first, rest⟩ := Text.integer_append_inj (.cons rfl) (.cons rfl) texts
    have second := Text.integer_injective (List.cons.inj rest).2
    exact ⟨Identifier.toInt_injective first, Identifier.toInt_injective second⟩
  constructor
  · constructor
    · exact ends
    · rintro ⟨rfl, rfl⟩
      rfl
  · constructor
    · exact fun same => (ends same).1
    · rintro rfl
      rfl

end Quartermaster.Freight

import Quartermaster.Proofs.Quantity.Grouped
import Quartermaster.Proofs.Quantity.Shorthand

/-!
Numbers read back from their text. What is written with English marks states the number that it was
rounded to, at both ends of the 64-bit range too (`ofField?_grouped`): the numeral of a number that a
double was rounded to is read as a double that is rounded to it again.
-/

namespace Quartermaster.Quantity

open Text

variable {i : Int} {c : Char}

/-! ### Reading the numeral of an integer -/

def Decimal.ofNat (n : Nat) : Decimal := ⟨digits n, none, by simp [digits_ne_nil]⟩

theorem Decimal.text_ofNat (n : Nat) : (Decimal.ofNat n).text = natural n := List.append_nil _

theorem Decimal.digits_ofNat (n : Nat) :
    (Decimal.ofNat n).whole ++ (Decimal.ofNat n).fraction = digits n := List.append_nil _

theorem read?_integer (few : i.natAbs < 10 ^ 20) :
    Double.read? (integer i) = some (.ofRatio (i < 0) i.natAbs 1) := by
  have nearest (negative : Bool) : Double.ofDecimal negative
      ((Decimal.ofNat i.natAbs).whole ++ (Decimal.ofNat i.natAbs).fraction)
      (-((Decimal.ofNat i.natAbs).fraction.length : Int)) = .ofRatio negative i.natAbs 1 := by
    rw [Decimal.digits_ofNat, ← Double.ofDecimal_digits negative few]
    rfl
  unfold integer
  split
  · rename_i isNegative
    have magnitude := (Decimal.ofNat i.natAbs).readMagnitude?_text true
    rw [Decimal.text_ofNat, nearest] at magnitude
    rw [Double.read?, magnitude, decide_eq_true isNegative]
    rfl
  · rename_i notNegative
    have read := (Decimal.ofNat i.natAbs).read?_text
    rwa [Decimal.text_ofNat, nearest, ← decide_eq_false notNegative] at read

theorem integer_ne_nil (i : Int) : integer i ≠ [] := by
  unfold integer
  split <;> simp [natural, digits_ne_nil]

theorem splitSuffix?_integer (i : Int) : splitSuffix? (integer i) = none := by
  cases found : splitSuffix? (integer i) with
  | none => rfl
  | some parts =>
    obtain ⟨numeral, suffix⟩ := parts
    obtain ⟨blanks, letter, text, -, -, named⟩ := exists_of_splitSuffix? found
    have last : letter ∈ integer i := by simp [text]
    rcases eq_of_mem_integer last with rfl | ⟨d, rfl⟩
    · cases named
    · have digit := charDigit?_of_ofChar? named
      rw [charDigit?_digitChar] at digit
      cases digit

/-- A numeral states the integer that it was written for, if a double was rounded to it. -/
theorem toInt_readFront?_integer (held : Double.IsHeld i) (low : -2 ^ 63 ≤ i) (high : i < 2 ^ 63) :
    (Double.readFront? (integer i)).map (fun x => x.roundInt64.toInt) = some i := by
  have read := Double.readFront?_of_finite (integer_ne_nil i) (read?_integer (by omega))
    (held.isFinite_ofRatio _)
  rw [read, Option.map_some, held.toInt_roundInt64_ofRatio low high]

/-! ### Reading a number with marks -/

/-- What is left of a number with English marks is its numeral. -/
theorem normalize_of_filter {text : List Char} (digits : text.filter (· ≠ ',') = integer i) :
    normalize text = integer i := by
  have figure : ∀ c ∈ text, isBlank c = false ∧ lowerChar c = [c] := by
    intro c member
    by_cases mark : c = ','
    · subst mark
      exact ⟨rfl, rfl⟩
    · have kept : c ∈ integer i := by
        rw [← digits]
        exact List.mem_filter.mpr ⟨member, by simpa using mark⟩
      rcases eq_of_mem_integer kept with rfl | ⟨d, rfl⟩
      · exact ⟨rfl, rfl⟩
      · exact ⟨isBlank_digitChar d, lowerChar_digitChar d⟩
  rw [normalize, trim_of_visible fun c member => (figure c member).1,
    lower_of_forall fun c member => (figure c member).2, digits]

/-- English writes every number, and it is read back as what it was rounded to. -/
theorem ofField?_grouped (x : Double) :
    ∃ text, grouped .english x = .ok text ∧
      (ofField? (some text)).map Int64.toInt = some (x.roundWithin (-2 ^ 63) (2 ^ 63 - 1)) := by
  obtain ⟨low, high⟩ := Double.roundWithin_range x
  have held := Double.isHeld_roundWithin x
  obtain ⟨text, written⟩ : ∃ text, grouped .english x = .ok text :=
    ⟨_, grouped_eq_ok_iff.mpr ⟨nofun, rfl⟩⟩
  have bare := normalize_of_filter (filter_of_grouped written)
  rw [Double.toInt_roundInt64] at bare
  refine ⟨text, written, ?_⟩
  rw [ofField?, Option.getD_some, ofShorthand?, bare]
  simp only [splitSuffix?_integer, Option.map_map]
  exact toInt_readFront?_integer held low high

end Quartermaster.Quantity

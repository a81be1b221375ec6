import Quartermaster.Proofs.Quantity.Shorthand

/-!
Commas in volumes. They are dropped after the blanks around a text, so a comma at one of its ends
keeps the blanks behind it. Such blanks hide the number in front, or the suffix at the end; all other
commas are as if they were not there (`ofField?_withoutCommas_iff`).
-/

namespace Quartermaster.Quantity

open Double (IsFigure StartsNumber)
open Text

variable {text numeral bare blanks : List Char} {suffix : Suffix} {c letter : Char} {x : Double}

/-! ### What is left without commas -/

/-- What is stated by a text from which blanks, capitals and commas have been taken. -/
def volume? (text : List Char) : Option Int64 :=
  match splitSuffix? text with
  | some (numeral, suffix) =>
    (Double.readFront? numeral).map fun x => (x.mul (.ofNat suffix.factor)).roundInt64
  | none => (Double.readFront? text).map Double.roundInt64

theorem ofShorthand?_eq (input : String) :
    ofShorthand? input = volume? (normalize input.toList) := rfl

/-- Of an input without commas the blanks are left out that commas kept. -/
theorem normalize_withoutCommas (input : List Char) :
    normalize (input.filter (· ≠ ',')) = trim (normalize input) := by
  have none : (trim (input.filter (· ≠ ','))).filter (· ≠ ',') =
      trim (input.filter (· ≠ ',')) := by
    refine List.filter_eq_self.mpr fun c member => ?_
    exact (List.mem_filter.mp (mem_of_mem_trim member)).2
  calc normalize (input.filter (· ≠ ','))
      = lower (trim (input.filter (· ≠ ','))) := by rw [normalize, filter_lower, none]
    _ = trim (lower ((trim input).filter (· ≠ ','))) := by rw [trim_lower, trim_filter]
    _ = trim (normalize input) := by rw [normalize, filter_lower]

/-! ### Where numbers stop -/

theorem not_isFigure (noDigit : charDigit? c = none) (other : c ∉ ['.', 'e', 'E', '+', '-']) :
    ¬IsFigure c := by
  intro figure
  cases figure with
  | digit d =>
    rw [charDigit?_digitChar] at noDigit
    cases noDigit
  | other member => exact other member

theorem not_isFigure_of_isBlank (blank : isBlank c = true) : ¬IsFigure c := by
  refine not_isFigure (charDigit?_of_isBlank blank) fun member => ?_
  have visible : ['.', 'e', 'E', '+', '-'].all (isBlank · = false) = true := rfl
  have hidden := List.all_eq_true.mp visible c member
  rw [blank] at hidden
  contradiction

theorem of_ofChar? (named : Suffix.ofChar? letter = some suffix) :
    ¬IsFigure letter ∧ isBlank letter = false := by
  have noDigit := charDigit?_of_ofChar? named
  unfold Suffix.ofChar? at named
  split at named
  · exact ⟨not_isFigure noDigit (by decide), rfl⟩
  · exact ⟨not_isFigure noDigit (by decide), rfl⟩
  · exact ⟨not_isFigure noDigit (by decide), rfl⟩
  · cases named

theorem readFront?_of_splitSuffix? (found : splitSuffix? text = some (numeral, suffix)) :
    Double.readFront? text = Double.readFront? numeral := by
  obtain ⟨blanks, letter, rfl, -, blank, named⟩ := exists_of_splitSuffix? found
  cases blanks with
  | nil => exact Double.readFront?_append (of_ofChar? named).1 numeral []
  | cons b more =>
    exact Double.readFront?_append (not_isFigure_of_isBlank (blank b List.mem_cons_self)) numeral _

theorem hasSize_of_readFront? (plain : isPlainNumeral numeral = true)
    (read : Double.readFront? numeral = some x) : ∃ grains, Double.HasSize x grains := by
  obtain ⟨front, -, part, read, finite⟩ := Double.exists_of_readFront? read
  obtain ⟨negative, magnitude, read, text⟩ := Double.exists_magnitude_of_read? read finite
  have figure : ∀ c ∈ front, (c.isDigit || decide (c = '.')) = true := by
    intro c member
    exact List.all_eq_true.mp (Bool.and_eq_true_iff.mp plain).2 c (part.subset member)
  have sign := Double.isNegative_of_readMagnitude? read
  rcases text with rfl | rfl | ⟨rfl, rfl⟩
  · exact absurd (figure '-' List.mem_cons_self) (by decide)
  · exact absurd (figure '+' List.mem_cons_self) (by decide)
  · cases x with
    | nan => cases finite
    | infinite _ => cases finite
    | finite _ grains representable =>
      cases sign
      exact ⟨grains, representable, rfl⟩

/-! ### Blanks that commas kept -/

/-- Blanks in front hide the number. -/
theorem not_startsNumber_of_blank (hidden : trimStart text ≠ text) : ¬StartsNumber text := by
  intro starts
  apply hidden
  cases starts with
  | unsigned starts =>
    cases starts with
    | digit d rest => exact trimStart_cons (isBlank_digitChar d) rest
    | point d rest => exact trimStart_cons rfl _
  | plus _ => exact trimStart_cons rfl _
  | minus _ => exact trimStart_cons rfl _

/-- Blanks at the end hide a suffix, but nothing of the number in front. -/
theorem volume?_append_blanks (some : blanks ≠ []) (blank : ∀ b ∈ blanks, isBlank b = true) :
    volume? (bare ++ blanks) = (Double.readFront? bare).map Double.roundInt64 := by
  have read : Double.readFront? (bare ++ blanks) = Double.readFront? bare := by
    obtain ⟨b, more, rfl⟩ := List.exists_cons_of_ne_nil some
    exact Double.readFront?_append (not_isFigure_of_isBlank (blank b List.mem_cons_self)) bare more
  have noSuffix : splitSuffix? (bare ++ blanks) = none := by
    obtain ⟨init, last, rfl⟩ := (List.eq_nil_or_concat' blanks).resolve_left some
    rw [← List.append_assoc, splitSuffix?_concat]
    cases named : Suffix.ofChar? last with
    | none => rfl
    | some suffix =>
      have visible := (of_ofChar? named).2
      rw [blank last (by simp)] at visible
      cases visible
  rw [volume?, noSuffix, read]

theorem volume?_of_trimEnd_ne (hidden : trimEnd text ≠ text) :
    volume? text = (Double.readFront? (trimEnd text)).map Double.roundInt64 := by
  obtain ⟨blanks, parts, blank⟩ := exists_dropEndWhile isBlank text
  have some : blanks ≠ [] := by
    rintro rfl
    rw [List.append_nil] at parts
    exact hidden parts.symm
  calc volume? text = volume? (trimEnd text ++ blanks) := congrArg volume? parts
    _ = (Double.readFront? (trimEnd text)).map Double.roundInt64 := volume?_append_blanks some blank

/-- A suffix makes a difference unless it leaves nothing or there is too much without it. -/
theorem map_mul_eq_iff (plain : isPlainNumeral numeral = true) (suffix : Suffix) :
    (Double.readFront? numeral).map (fun x => (x.mul (.ofNat suffix.factor)).roundInt64) =
        (Double.readFront? numeral).map Double.roundInt64 ↔
      ∀ x, Double.readFront? numeral = some x →
        (x.mul (.ofNat suffix.factor)).roundInt64 = 0 ∨ x.roundInt64 = Int64.maxValue := by
  have large : 8 ≤ suffix.factor := by cases suffix <;> decide
  have short : suffix.factor ≤ Nat.pow 2 53 := suffix.factor_le.trans (by decide)
  cases read : Double.readFront? numeral with
  | none => simp
  | some x =>
    obtain ⟨grains, size⟩ := hasSize_of_readFront? plain read
    simp only [Option.map_some, Option.some.injEq, forall_eq']
    exact size.roundInt64_mul_eq_iff large short

theorem volume?_eq_iff (bare : List Char) :
    volume? bare = (Double.readFront? bare).map Double.roundInt64 ↔
      ∀ numeral suffix x, splitSuffix? bare = some (numeral, suffix) →
        Double.readFront? numeral = some x →
          (x.mul (.ofNat suffix.factor)).roundInt64 = 0 ∨ x.roundInt64 = Int64.maxValue := by
  cases found : splitSuffix? bare with
  | none => simp [volume?, found]
  | some parts =>
    obtain ⟨numeral, suffix⟩ := parts
    obtain ⟨-, -, -, plain, -, -⟩ := exists_of_splitSuffix? found
    rw [volume?, found, readFront?_of_splitSuffix? found]
    have same := map_mul_eq_iff plain suffix
    constructor
    · rintro equal _ _ x ⟨⟩ read
      exact same.mp equal x read
    · intro difference
      exact same.mpr fun x read => difference numeral suffix x rfl read

/-- Without the blanks that commas kept, the text states a volume just when it starts with a number. -/
theorem volume?_trim_eq_none_iff (input : String) :
    volume? (trim (normalize input.toList)) = none ↔
      ¬StartsNumber (trim (normalize input.toList)) := by
  have plain := ofShorthand?_eq_none_iff (String.ofList (input.toList.filter (· ≠ ',')))
  rwa [ofShorthand?_eq, String.toList_ofList, normalize_withoutCommas] at plain

theorem startsNumber_of_splitSuffix? (found : splitSuffix? text = some (numeral, suffix))
    (read : Double.readFront? numeral = some x) : StartsNumber text := by
  rw [← Double.isSome_readFront?_iff, readFront?_of_splitSuffix? found, read]
  rfl

/--
An input states what it states without its commas just when they keep no blanks that matter: blanks
in front hide any number, and blanks at the end hide a suffix, which makes no difference only if
nothing is left with it or there is too much without it.
-/
theorem ofField?_withoutCommas_iff (input : String) :
    let text := (lower (trim input.toList)).filter (· ≠ ',')
    let bare := trim text
    ofField? (some (String.ofList (input.toList.filter (· ≠ ',')))) = ofField? (some input) ↔
      (StartsNumber bare → trimStart text = text) ∧
        ∀ numeral suffix x, splitSuffix? bare = some (numeral, suffix) →
          Double.readFront? numeral = some x →
            trimEnd text = text ∨ (x.mul (.ofNat suffix.factor)).roundInt64 = 0 ∨
              x.roundInt64 = Int64.maxValue := by
  intro text bare
  have without : ofField? (some (String.ofList (input.toList.filter (· ≠ ',')))) = volume? bare := by
    rw [ofField?, Option.getD_some, ofShorthand?_eq, String.toList_ofList, normalize_withoutCommas]
    rfl
  have given : ofField? (some input) = volume? text := rfl
  rw [without, given]
  by_cases front : trimStart text = text
  · have cut : bare = trimEnd text := congrArg trimEnd front
    by_cases back : trimEnd text = text
    · rw [cut, back]
      simp [front]
    · have hidden := volume?_of_trimEnd_ne back
      rw [← cut] at hidden
      rw [hidden, volume?_eq_iff]
      simp [front, back]
  · -- Nothing is stated by the input, as it is with no number in front of it without commas.
    have nothing : volume? text = none :=
      (ofShorthand?_eq_none_iff input).mpr (not_startsNumber_of_blank front)
    have same := volume?_trim_eq_none_iff input
    change volume? bare = none ↔ ¬StartsNumber bare at same
    rw [nothing, same]
    constructor
    · intro noNumber
      refine ⟨fun starts => absurd starts noNumber, fun numeral suffix x found read => ?_⟩
      exact absurd (startsNumber_of_splitSuffix? found read) noNumber
    · rintro ⟨visible, -⟩ starts
      exact front (visible starts)

/-- The comma at the end keeps a blank that hides the suffix. -/
theorem withoutCommas_of_comma_at_end :
    ofField? (some "60k ,") = some 60 ∧ ofField? (some "60k ") = some 60000 ∧
      ¬∀ input : String,
        ofField? (some input) = ofField? (some (String.ofList (input.toList.filter (· ≠ ',')))) := by
  have given : ofField? (some "60k ,") = some 60 := by decide +kernel
  have without : ofField? (some "60k ") = some 60000 := by decide +kernel
  refine ⟨given, without, fun same => ?_⟩
  have equal := same "60k ,"
  have left : String.ofList ("60k ,".toList.filter (· ≠ ',')) = "60k " := by decide
  rw [given, left, without] at equal
  exact absurd equal (by decide)

end Quartermaster.Quantity

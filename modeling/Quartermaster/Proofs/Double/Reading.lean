import Mathlib.Data.List.Infix
import Quartermaster.Double.Reading
import Quartermaster.Proofs.Text.Numeral

/-!
Where a number is found in front of a text. A text has one just when it starts with an optional
sign and a digit, or a point and a digit (`isSome_readFront?_iff`): what follows may make a longer
number, or one that is too large, but never takes the first digit away. A text that is a finite
number as a whole is read as a whole (`readFront?_of_finite`).
-/

namespace Quartermaster.Double

open Text

/-- Starts with a digit, or with a point and a digit. -/
inductive StartsMagnitude : List Char → Prop
  | digit (d : Digit) (rest : List Char) : StartsMagnitude (digitChar d :: rest)
  | point (d : Digit) (rest : List Char) : StartsMagnitude ('.' :: digitChar d :: rest)

/-- Starts with an optional sign and then with a digit, or a point and a digit. -/
inductive StartsNumber : List Char → Prop
  | unsigned {text : List Char} (starts : StartsMagnitude text) : StartsNumber text
  | plus {text : List Char} (starts : StartsMagnitude text) : StartsNumber ('+' :: text)
  | minus {text : List Char} (starts : StartsMagnitude text) : StartsNumber ('-' :: text)

variable {negative : Bool} {text front : List Char} {x : Double}

theorem StartsMagnitude.append (starts : StartsMagnitude front) (rest : List Char) :
    StartsMagnitude (front ++ rest) := by
  cases starts with
  | digit d more => exact .digit d (more ++ rest)
  | point d more => exact .point d (more ++ rest)

theorem StartsNumber.append (starts : StartsNumber front) (rest : List Char) :
    StartsNumber (front ++ rest) := by
  cases starts with
  | unsigned starts => exact .unsigned (starts.append rest)
  | plus starts => exact .plus (starts.append rest)
  | minus starts => exact .minus (starts.append rest)

/-! ### What a text that reads as a number starts with -/

theorem startsMagnitude_of_readMagnitude? (read : readMagnitude? negative text = some x) :
    StartsMagnitude text := by
  cases text with
  | nil => simp [readMagnitude?, spanDigits, readFraction] at read
  | cons c rest =>
    cases whole : charDigit? c with
    | some d =>
      rw [charDigit?_eq_some_iff.mp whole]
      exact .digit d rest
    | none =>
      -- without whole digits there have to be some behind a point
      by_cases point : c = '.'
      · subst point
        cases rest with
        | nil => simp [readMagnitude?, spanDigits, readFraction, whole] at read
        | cons c' more =>
          cases fraction : charDigit? c' with
          | some d =>
            rw [charDigit?_eq_some_iff.mp fraction]
            exact .point d more
          | none => simp [readMagnitude?, spanDigits, readFraction, whole, fraction] at read
      · simp [readMagnitude?, spanDigits, readFraction, whole, point] at read

theorem not_isFinite_of_readWord? (read : readWord? negative text = some x) :
    x.isFinite = false := by
  unfold readWord? at read
  split at read <;> cases read <;> rfl

theorem exists_magnitude_of_read? (read : read? text = some x) (finite : x.isFinite = true) :
    ∃ negative magnitude, readMagnitude? negative magnitude = some x ∧
      (text = '-' :: magnitude ∨ text = '+' :: magnitude ∨ text = magnitude ∧ negative = false) := by
  have notWord {negative : Bool} {text : List Char}
      (read : (readMagnitude? negative text <|> readWord? negative text) = some x) :
      readMagnitude? negative text = some x := by
    cases magnitude : readMagnitude? negative text with
    | some y => rwa [magnitude] at read
    | none =>
      rw [magnitude] at read
      have infinite := not_isFinite_of_readWord? read
      simp [finite] at infinite
  unfold read? at read
  split at read
  · rename_i rest
    exact ⟨true, rest, notWord read, .inl rfl⟩
  · rename_i rest
    exact ⟨false, rest, notWord read, .inr (.inl rfl)⟩
  · exact ⟨false, text, notWord read, .inr (.inr ⟨rfl, rfl⟩)⟩

theorem startsNumber_of_read? (read : read? text = some x) (finite : x.isFinite = true) :
    StartsNumber text := by
  obtain ⟨negative, magnitude, read, text⟩ := exists_magnitude_of_read? read finite
  have starts := startsMagnitude_of_readMagnitude? read
  rcases text with rfl | rfl | ⟨rfl, -⟩
  · exact .minus starts
  · exact .plus starts
  · exact .unsigned starts

/-! ### Parts in front of a text -/

theorem mem_frontsFromLongest {α : Type} {front xs : List α} :
    front ∈ frontsFromLongest xs ↔ front ≠ [] ∧ front <+: xs := by
  simp only [frontsFromLongest, List.mem_map, List.mem_reverse, List.mem_range]
  constructor
  · rintro ⟨missing, within, rfl⟩
    refine ⟨?_, List.take_prefix _ _⟩
    apply List.ne_nil_of_length_pos
    rw [List.length_take]
    omega
  · rintro ⟨some, part⟩
    have positive := List.length_pos_of_ne_nil some
    have within := part.length_le
    refine ⟨front.length - 1, by omega, ?_⟩
    have taken : front.length - 1 + 1 = front.length := by omega
    rw [taken]
    exact (List.prefix_iff_eq_take.mp part).symm

theorem isSome_readFront?_iff_exists :
    (readFront? text).isSome = true ↔
      ∃ front, front ≠ [] ∧ front <+: text ∧ ((read? front).filter isFinite).isSome = true := by
  simp only [readFront?, List.findSome?_isSome_iff, mem_frontsFromLongest, and_assoc]

theorem isSome_read?_digit (d : Digit) : ∀ sign ∈ [[], ['+'], ['-']], ∀ mark ∈ [[], ['.']],
    ((read? (sign ++ mark ++ [digitChar d])).filter isFinite).isSome = true := by
  revert d
  decide +kernel

/-- The shortest number that a text starts with. -/
theorem StartsNumber.exists_finite (starts : StartsNumber text) :
    ∃ front, front ≠ [] ∧ front <+: text ∧ ((read? front).filter isFinite).isSome = true := by
  have shortest (sign : List Char) (signed : sign ∈ [[], ['+'], ['-']]) {text : List Char}
      (starts : StartsMagnitude text) : ∃ front, front ≠ [] ∧ front <+: sign ++ text ∧
        ((read? front).filter isFinite).isSome = true := by
    cases starts with
    | digit d rest =>
      refine ⟨sign ++ [digitChar d], by simp, ⟨rest, by simp⟩, ?_⟩
      simpa using isSome_read?_digit d sign signed [] (by simp)
    | point d rest =>
      refine ⟨sign ++ ['.', digitChar d], by simp, ⟨rest, by simp⟩, ?_⟩
      simpa using isSome_read?_digit d sign signed ['.'] (by simp)
  cases starts with
  | unsigned starts => exact shortest [] (by simp) starts
  | plus starts => exact shortest ['+'] (by simp) starts
  | minus starts => exact shortest ['-'] (by simp) starts

/-- A number is read from the front of a text just when the text starts with one. -/
theorem isSome_readFront?_iff : (readFront? text).isSome = true ↔ StartsNumber text := by
  rw [isSome_readFront?_iff_exists]
  constructor
  · rintro ⟨front, -, ⟨rest, rfl⟩, found⟩
    obtain ⟨x, found⟩ := Option.isSome_iff_exists.mp found
    obtain ⟨read, finite⟩ := Option.filter_eq_some_iff.mp found
    exact (startsNumber_of_read? read finite).append rest
  · exact StartsNumber.exists_finite

theorem frontsFromLongest_concat {α : Type} (xs : List α) (x : α) :
    frontsFromLongest (xs ++ [x]) = (xs ++ [x]) :: frontsFromLongest xs := by
  have shorter : ∀ missing ∈ (List.range xs.length).reverse,
      (xs ++ [x]).take (missing + 1) = xs.take (missing + 1) := by
    intro missing member
    have within := List.mem_range.mp (List.mem_reverse.mp member)
    exact List.take_append_of_le_length within
  have longest : (xs ++ [x]).take (xs.length + 1) = xs ++ [x] :=
    List.take_of_length_le (by simp)
  rw [frontsFromLongest, List.length_append, List.length_singleton, List.range_succ,
    List.reverse_append, List.map_append, List.map_congr_left shorter, ← frontsFromLongest]
  simp [longest]

theorem readFront?_concat (front : List Char) (c : Char) :
    readFront? (front ++ [c]) =
      (((read? (front ++ [c])).filter isFinite) <|> readFront? front) := by
  rw [readFront?, frontsFromLongest_concat, List.findSome?_cons, ← readFront?]
  cases (read? (front ++ [c])).filter isFinite <;> rfl

theorem readFront?_of_finite (some : text ≠ []) (read : read? text = .some x)
    (finite : x.isFinite = true) : readFront? text = .some x := by
  obtain ⟨front, last, rfl⟩ := (List.eq_nil_or_concat' text).resolve_left some
  rw [readFront?_concat, Option.filter_eq_some_iff.mpr ⟨read, finite⟩]
  rfl

theorem exists_of_readFront? (read : readFront? text = some x) :
    ∃ front, front ≠ [] ∧ front <+: text ∧ read? front = some x ∧ x.isFinite = true := by
  obtain ⟨front, tried, found⟩ := List.exists_of_findSome?_eq_some read
  obtain ⟨some, part⟩ := mem_frontsFromLongest.mp tried
  exact ⟨front, some, part, Option.filter_eq_some_iff.mp found⟩

/-! ### The characters of a number -/

/-- The characters that numbers with digits are written with. -/
inductive IsFigure : Char → Prop
  | digit (d : Digit) : IsFigure (digitChar d)
  | other {c : Char} (member : c ∈ ['.', 'e', 'E', '+', '-']) : IsFigure c

theorem isFigure_of_mem_digits {ds : List Digit} {c : Char} (member : c ∈ ds.map digitChar) :
    IsFigure c := by
  obtain ⟨d, -, rfl⟩ := List.mem_map.mp member
  exact .digit d

theorem isFigure_of_unsigned {rest : List Char} {exponent : Nat}
    (read : readExponent?.unsigned rest = some (exponent, [])) : ∀ c ∈ rest, IsFigure c := by
  have whole := eq_of_spanDigits rest
  unfold readExponent?.unsigned at read
  split at read
  · cases read
  · rename_i ds behind _ spanned
    cases read
    rw [spanned, List.append_nil] at whole
    rw [whole]
    exact fun c => isFigure_of_mem_digits

theorem isFigure_of_readExponent? {rest : List Char} {exponent : Int}
    (read : readExponent? rest = some (exponent, [])) : ∀ c ∈ rest, IsFigure c := by
  have unsigned {text : List Char} {signed : Nat × List Char → Int × List Char}
      (kept : ∀ part, (signed part).2 = part.2)
      (read : (readExponent?.unsigned text).map signed = some (exponent, [])) :
      ∀ c ∈ text, IsFigure c := by
    obtain ⟨⟨n, behind⟩, found, same⟩ := Option.map_eq_some_iff.mp read
    obtain rfl : [] = behind := (congrArg Prod.snd same).symm.trans (kept _)
    exact isFigure_of_unsigned found
  unfold readExponent? at read
  split at read
  · exact List.forall_mem_cons.mpr ⟨.other (by decide), unsigned (fun _ => rfl) read⟩
  · exact List.forall_mem_cons.mpr ⟨.other (by decide), unsigned (fun _ => rfl) read⟩
  · exact unsigned (fun _ => rfl) read

theorem exists_of_readFraction (text : List Char) :
    ∃ front, text = front ++ (readFraction text).2 ∧ ∀ c ∈ front, IsFigure c := by
  unfold readFraction
  split
  · rename_i rest
    refine ⟨'.' :: (spanDigits rest).1.map digitChar, ?_, ?_⟩
    · exact congrArg ('.' :: ·) (eq_of_spanDigits rest)
    · exact List.forall_mem_cons.mpr ⟨.other (by decide), fun c => isFigure_of_mem_digits⟩
  · exact ⟨[], rfl, nofun⟩

theorem isFigure_of_readMagnitude? (read : readMagnitude? negative text = some x) :
    ∀ c ∈ text, IsFigure c := by
  obtain ⟨front, fraction, figures⟩ := exists_of_readFraction (spanDigits text).2
  have behind : ∀ c ∈ (readFraction (spanDigits text).2).2, IsFigure c := by
    simp only [readMagnitude?] at read
    split at read
    · cases read
    · split at read
      · rename_i last
        simp [last]
      · rename_i mark rest last
        rw [last]
        split at read
        · rename_i power
          split at read
          · rename_i exponent found
            refine List.forall_mem_cons.mpr ⟨?_, isFigure_of_readExponent? found⟩
            rcases power with rfl | rfl <;> exact .other (by decide)
          · cases read
        · cases read
  intro c member
  rw [eq_of_spanDigits text, fraction] at member
  rcases List.mem_append.mp member with whole | rest
  · exact isFigure_of_mem_digits whole
  · exact (List.mem_append.mp rest).elim (figures c) (behind c)

theorem isFigure_of_read? (read : read? text = some x) (finite : x.isFinite = true) :
    ∀ c ∈ text, IsFigure c := by
  obtain ⟨negative, magnitude, read, text⟩ := exists_magnitude_of_read? read finite
  have figures := isFigure_of_readMagnitude? read
  rcases text with rfl | rfl | ⟨rfl, -⟩
  · exact List.forall_mem_cons.mpr ⟨.other (by decide), figures⟩
  · exact List.forall_mem_cons.mpr ⟨.other (by decide), figures⟩
  · exact figures

/-- A number stops in front of a character that is no figure. -/
theorem readFront?_append {c : Char} (stops : ¬IsFigure c) (front rest : List Char) :
    readFront? (front ++ c :: rest) = readFront? front := by
  have tooLong {text : List Char} (member : c ∈ text) : (read? text).filter isFinite = none := by
    cases read : (read? text).filter isFinite with
    | none => rfl
    | some x =>
      obtain ⟨read, finite⟩ := Option.filter_eq_some_iff.mp read
      exact absurd (isFigure_of_read? read finite c member) stops
  induction rest using List.reverseRecOn with
  | nil =>
    rw [readFront?_concat, tooLong (by simp)]
    rfl
  | append_singleton rest last ih =>
    rw [← List.cons_append, ← List.append_assoc, readFront?_concat, tooLong (by simp), ← ih]
    rfl

/-! ### The sign of a number -/

theorem isNegative_ofGrains (negative : Bool) (grains : Nat) :
    (ofGrains negative grains).isNegative = negative := by
  unfold ofGrains
  split <;> rfl

theorem isNegative_ofRatio (negative : Bool) (top bottom : Nat) :
    (ofRatio negative top bottom).isNegative = negative := by
  rw [ofRatio, ofGrainRatio, isNegative_ofGrains]

theorem isNegative_ofDecimal (negative : Bool) (ds : List Digit) (exponent : Int) :
    (ofDecimal negative ds exponent).isNegative = negative := by
  simp only [ofDecimal]
  split
  · rfl
  · split
    · rfl
    · split
      · rfl
      · split
        · rw [isNegative_ofRatio]
        · rw [isNegative_ofRatio]

theorem isNegative_of_readMagnitude? (read : readMagnitude? negative text = some x) :
    x.isNegative = negative := by
  simp only [readMagnitude?] at read
  split at read
  · cases read
  · split at read
    · cases read
      exact isNegative_ofDecimal negative _ _
    · split at read
      · split at read
        · cases read
          exact isNegative_ofDecimal negative _ _
        · cases read
      · cases read

end Quartermaster.Double

import Mathlib.Algebra.Order.Field.Rat
import Mathlib.Tactic.FieldSimp
import Quartermaster.Proofs.Double.Reading
import Quartermaster.Proofs.Double.Scaling
import Quartermaster.Proofs.Text.Blank
import Quartermaster.Quantity.Shorthand

/-!
Volumes in shorthand. An input states a volume just when what is left of it without blanks around,
capitals and commas starts with a number (`ofField?_eq_none_iff`): a suffix takes nothing from the
front. A decimal with a suffix states its product with the number of the suffix, exactly, as long
as that is a whole number of up to 10¹⁵ (`ofField?_text`).
-/

namespace Quartermaster

namespace Quantity

open Double (StartsMagnitude StartsNumber)
open Text

/-! ### Suffixes -/

section Suffix

variable {text numeral rest : List Char} {suffix : Suffix}

theorem splitSuffix?_concat (front : List Char) (letter : Char) :
    splitSuffix? (front ++ [letter]) = (Suffix.ofChar? letter).bind fun suffix =>
      if isPlainNumeral (trimEnd front) = true then some (trimEnd front, suffix) else none := by
  simp only [splitSuffix?, List.getLast?_concat, List.dropLast_concat]
  rfl

/-- A suffix is split from a plain numeral, with nothing but blanks between the two. -/
theorem exists_of_splitSuffix? (found : splitSuffix? text = some (numeral, suffix)) :
    ∃ blanks letter, text = numeral ++ (blanks ++ [letter]) ∧ isPlainNumeral numeral = true ∧
      (∀ b ∈ blanks, isBlank b = true) ∧ Suffix.ofChar? letter = some suffix := by
  rcases List.eq_nil_or_concat text with rfl | ⟨front, letter, rfl⟩
  · cases found
  · rw [List.concat_eq_append] at found ⊢
    rw [splitSuffix?_concat] at found
    obtain ⟨named, letterNames, found⟩ := Option.bind_eq_some_iff.mp found
    obtain ⟨blanks, cut, blank⟩ := exists_dropEndWhile isBlank front
    split at found
    · rename_i plain
      cases found
      refine ⟨blanks, letter, ?_, plain, blank, letterNames⟩
      rw [← List.append_assoc, trimEnd, ← cut]
    · cases found

theorem splitSuffix?_of_plain {front : List Char} {letter : Char}
    (trimmed : trimEnd front = numeral) (plain : isPlainNumeral numeral = true)
    (named : Suffix.ofChar? letter = some suffix) :
    splitSuffix? (front ++ [letter]) = some (numeral, suffix) := by
  rw [splitSuffix?_concat, named, Option.bind_some, trimmed, if_pos plain]

theorem charDigit?_of_ofChar? {letter : Char} (named : Suffix.ofChar? letter = some suffix) :
    charDigit? letter = none := by
  unfold Suffix.ofChar? at named
  split at named
  · rfl
  · rfl
  · rfl
  · cases named

theorem noDigit_blanks {blanks : List Char} (blank : ∀ b ∈ blanks, isBlank b = true)
    (stops : NoDigit rest) : NoDigit (blanks ++ rest) := by
  cases blanks with
  | nil => exact stops
  | cons b more => exact NoDigit.cons (charDigit?_of_isBlank (blank b List.mem_cons_self))

/-- Where a plain numeral stops, nothing is added to what it starts with. -/
theorem startsNumber_append_iff (plain : isPlainNumeral numeral = true) (stops : NoDigit rest) :
    StartsNumber (numeral ++ rest) ↔ StartsNumber numeral := by
  refine ⟨fun starts => ?_, fun starts => starts.append rest⟩
  obtain ⟨some, figures⟩ := Bool.and_eq_true_iff.mp plain
  cases numeral with
  | nil => contradiction
  | cons c more =>
    have figure : (c.isDigit || decide (c = '.')) = true :=
      List.all_eq_true.mp figures c List.mem_cons_self
    rw [List.cons_append] at starts
    generalize whole : c :: (more ++ rest) = text at starts
    cases starts with
    | plus _ =>
      obtain ⟨rfl, -⟩ := List.cons.inj whole
      contradiction
    | minus _ =>
      obtain ⟨rfl, -⟩ := List.cons.inj whole
      contradiction
    | unsigned starts =>
      cases starts with
      | digit d _ =>
        obtain ⟨rfl, -⟩ := List.cons.inj whole
        exact .unsigned (.digit d more)
      | point d _ =>
        -- a point that ends the numeral is followed by no digit
        obtain ⟨rfl, tail⟩ := List.cons.inj whole
        cases more with
        | nil =>
          have digit := stops (digitChar d) (by rw [List.nil_append] at tail; rw [tail]; rfl)
          rw [charDigit?_digitChar] at digit
          cases digit
        | cons c' more' =>
          obtain ⟨rfl, -⟩ := List.cons.inj tail
          exact .unsigned (.point d more')

end Suffix

/-- An input without a suffix, or with one, states a volume just when it starts with a number. -/
theorem ofShorthand?_eq_none_iff (input : String) :
    ofShorthand? input = none ↔ ¬StartsNumber (normalize input.toList) := by
  rw [← Double.isSome_readFront?_iff]
  simp only [ofShorthand?]
  cases found : splitSuffix? (normalize input.toList) with
  | none => simp
  | some parts =>
    obtain ⟨numeral, suffix⟩ := parts
    obtain ⟨blanks, letter, text, plain, blank, named⟩ := exists_of_splitSuffix? found
    have stops : NoDigit (blanks ++ [letter]) :=
      noDigit_blanks blank (NoDigit.cons (charDigit?_of_ofChar? named))
    have same := startsNumber_append_iff plain stops
    rw [← text, ← Double.isSome_readFront?_iff, ← Double.isSome_readFront?_iff] at same
    simp [same]

/--
An input states no volume just when what it comes to does not start with a number; an input that
is left out is empty.
-/
theorem ofField?_eq_none_iff (input : Option String) :
    let text := (lower (trim (input.getD "").toList)).filter (· ≠ ',')
    ofField? input = none ↔ ¬StartsNumber text :=
  ofShorthand?_eq_none_iff (input.getD "")

/-- Of an exponent that is too large, only as much is read as still gives a number. -/
example : (ofField? (some "1e999")).isSome = true := by decide +kernel

example : ofField? (some "..5k") = none := by decide +kernel

/-! ### Decimals with a suffix -/

/-- A decimal: digits, those behind a point, if there is one, being its fraction. -/
structure Decimal where
  whole : List Digit
  fraction? : Option (List Digit)
  hasDigit : whole ++ fraction?.getD [] ≠ []

namespace Decimal

def fraction (decimal : Decimal) : List Digit := decimal.fraction?.getD []

def text (decimal : Decimal) : List Char :=
  decimal.whole.map digitChar ++
    match decimal.fraction? with
    | none => []
    | some fraction => '.' :: fraction.map digitChar

def value (decimal : Decimal) : ℚ :=
  ofDigits (decimal.whole ++ decimal.fraction) / 10 ^ decimal.fraction.length

variable {decimal : Decimal}

theorem eq_of_mem_text {c : Char} (member : c ∈ decimal.text) : c = '.' ∨ ∃ d, c = digitChar d := by
  rw [text, List.mem_append] at member
  rcases member with whole | behind
  · obtain ⟨d, -, rfl⟩ := List.mem_map.mp whole
    exact .inr ⟨d, rfl⟩
  · split at behind
    · cases behind
    · rcases List.mem_cons.mp behind with rfl | fraction
      · exact .inl rfl
      · obtain ⟨d, -, rfl⟩ := List.mem_map.mp fraction
        exact .inr ⟨d, rfl⟩

theorem text_ne_nil (decimal : Decimal) : decimal.text ≠ [] := by
  obtain ⟨whole, fraction?, hasDigit⟩ := decimal
  cases fraction? with
  | none => simpa [text] using hasDigit
  | some fraction => simp [text]

theorem isPlainNumeral_text (decimal : Decimal) : isPlainNumeral decimal.text = true := by
  have figures : decimal.text.all (fun c => c.isDigit || c = '.') = true := by
    refine List.all_eq_true.mpr fun c member => ?_
    rcases eq_of_mem_text member with rfl | ⟨d, rfl⟩
    · rfl
    · rw [isDigit_digitChar, Bool.true_or]
  rw [isPlainNumeral, figures, Bool.and_true]
  simpa using decimal.text_ne_nil

/-- Behind a sign a decimal is read as the double nearest to it. -/
theorem readMagnitude?_text (negative : Bool) (decimal : Decimal) :
    Double.readMagnitude? negative decimal.text = some (.ofDecimal negative
      (decimal.whole ++ decimal.fraction) (-(decimal.fraction.length : Int))) := by
  obtain ⟨whole, fraction?, hasDigit⟩ := decimal
  cases fraction? with
  | none =>
    have nonempty : whole ≠ [] := by simpa using hasDigit
    have spanned := spanDigits_append whole NoDigit.nil
    rw [List.append_nil] at spanned
    simp [Double.readMagnitude?, text, fraction, spanned, Double.readFraction, nonempty]
  | some fraction =>
    have nonempty : ¬(whole = [] ∧ fraction = []) := by simpa using hasDigit
    have point : NoDigit ('.' :: fraction.map digitChar) := NoDigit.cons rfl
    have spanned := spanDigits_append whole point
    have behind := spanDigits_append fraction NoDigit.nil
    rw [List.append_nil] at behind
    simp only [Double.readMagnitude?, text, spanned, Double.readFraction, behind, if_neg nonempty]
    simp [Decimal.fraction]

theorem read?_text (decimal : Decimal) :
    Double.read? decimal.text = some (.ofDecimal false (decimal.whole ++ decimal.fraction)
      (-(decimal.fraction.length : Int))) := by
  have magnitude := decimal.readMagnitude?_text false
  have unsigned (sign : Char) (rest : List Char) (signed : sign = '-' ∨ sign = '+') :
      decimal.text ≠ sign :: rest := by
    intro starts
    have first : sign ∈ decimal.text := by simp [starts]
    rcases eq_of_mem_text first with rfl | ⟨d, rfl⟩
    · simp at signed
    · simp [digitChar_ne_sign d] at signed
  rw [Double.read?, magnitude]
  · rfl
  · exact fun rest => unsigned '-' rest (.inl rfl)
  · exact fun rest => unsigned '+' rest (.inr rfl)

end Decimal

def Suffix.letters : Suffix → List Char
  | .thousand => ['k', 'K']
  | .million => ['m', 'M']
  | .billion => ['b', 'B']

/--
A volume in shorthand: a decimal, written with any commas in it, and the letter of a suffix, with
blanks around and between the two.
-/
structure Shorthand where
  decimal : Decimal
  written : List Char
  suffix : Suffix
  letter : Char
  before : List Char
  between : List Char
  after : List Char
  written_eq : written.filter (· ≠ ',') = decimal.text
  names : letter ∈ suffix.letters
  blank : ∀ b ∈ before ++ between ++ after, isBlank b = true

namespace Shorthand

def text (input : Shorthand) : String :=
  String.ofList
    (input.before ++ input.written ++ input.between ++ [input.letter] ++ input.after)

variable {input : Shorthand} {c : Char}

theorem isBlank_of_between (member : c ∈ input.between) : isBlank c = true :=
  input.blank c (by simp [member])

theorem eq_of_mem_written (member : c ∈ input.written) :
    c = ',' ∨ c = '.' ∨ ∃ d, c = digitChar d := by
  by_cases comma : c = ','
  · exact .inl comma
  · have kept : c ∈ input.written.filter (· ≠ ',') :=
      List.mem_filter.mpr ⟨member, by simpa using comma⟩
    rw [input.written_eq] at kept
    exact .inr (Decimal.eq_of_mem_text kept)

theorem isBlank_of_written (member : c ∈ input.written) : isBlank c = false := by
  rcases eq_of_mem_written member with rfl | rfl | ⟨d, rfl⟩
  · rfl
  · rfl
  · exact isBlank_digitChar d

theorem lowerChar_of_written (member : c ∈ input.written) : lowerChar c = [c] := by
  rcases eq_of_mem_written member with rfl | rfl | ⟨d, rfl⟩
  · rfl
  · rfl
  · exact lowerChar_digitChar d

theorem written_ne_nil (input : Shorthand) : input.written ≠ [] := by
  intro none
  have empty := input.written_eq
  rw [none] at empty
  exact input.decimal.text_ne_nil empty.symm

theorem exists_mark (input : Shorthand) : isBlank input.letter = false ∧ ∃ mark,
    lowerChar input.letter = [mark] ∧ mark ≠ ',' ∧ Suffix.ofChar? mark = some input.suffix := by
  have names := input.names
  revert names
  generalize input.letter = letter
  generalize input.suffix = suffix
  intro names
  cases suffix with
  | thousand =>
    rcases List.mem_pair.mp names with rfl | rfl
    all_goals exact ⟨rfl, 'k', rfl, by decide, rfl⟩
  | million =>
    rcases List.mem_pair.mp names with rfl | rfl
    all_goals exact ⟨rfl, 'm', rfl, by decide, rfl⟩
  | billion =>
    rcases List.mem_pair.mp names with rfl | rfl
    all_goals exact ⟨rfl, 'b', rfl, by decide, rfl⟩

theorem trim_text (input : Shorthand) :
    trim input.text.toList = input.written ++ input.between ++ [input.letter] := by
  obtain ⟨first, more, starts⟩ := List.exists_cons_of_ne_nil input.written_ne_nil
  have member : first ∈ input.written := by simp [starts]
  have visible := isBlank_of_written member
  have before : ∀ b ∈ input.before, isBlank b = true := by
    intro b member
    exact input.blank b (by simp [member])
  have after : ∀ b ∈ input.after, isBlank b = true := by
    intro b member
    exact input.blank b (by simp [member])
  have front := trimStart_append before visible
    (more ++ input.between ++ [input.letter] ++ input.after)
  have back := trimEnd_append (input.written ++ input.between) (exists_mark input).1 after
  rw [trim, text, String.toList_ofList]
  rw [← back, starts]
  refine congrArg trimEnd ?_
  simpa using front

/-- What is left of the input is the decimal, the blanks behind it and the small letter. -/
theorem normalize_text (input : Shorthand) : ∃ mark,
    Suffix.ofChar? mark = some input.suffix ∧
      normalize input.text.toList = input.decimal.text ++ input.between ++ [mark] := by
  obtain ⟨-, mark, small, noComma, names⟩ := exists_mark input
  refine ⟨mark, names, ?_⟩
  have written : lower input.written = input.written :=
    lower_of_forall fun c member => lowerChar_of_written member
  have between : lower input.between = input.between :=
    lower_of_forall fun c member => lowerChar_of_isBlank (isBlank_of_between member)
  have letter : lower [input.letter] = [mark] := by rw [lower, List.flatMap_singleton, small]
  have kept : input.between.filter (· ≠ ',') = input.between := by
    refine List.filter_eq_self.mpr fun c member => ?_
    have blank := isBlank_of_between member
    simp only [decide_eq_true_eq]
    rintro rfl
    contradiction
  rw [normalize, trim_text, lower_append, lower_append, written, between, letter,
    List.filter_append, List.filter_append, input.written_eq, kept]
  simp [noComma]

theorem splitSuffix?_normalize (input : Shorthand) :
    splitSuffix? (normalize input.text.toList) = some (input.decimal.text, input.suffix) := by
  obtain ⟨mark, names, left⟩ := normalize_text input
  have plain := input.decimal.isPlainNumeral_text
  rw [left]
  refine splitSuffix?_of_plain ?_ plain names
  rcases List.eq_nil_or_concat' input.decimal.text with none | ⟨front, last, ends⟩
  · exact absurd none input.decimal.text_ne_nil
  · have visible : isBlank last = false := by
      have member : last ∈ input.decimal.text := by simp [ends]
      rcases Decimal.eq_of_mem_text member with rfl | ⟨d, rfl⟩
      · rfl
      · exact isBlank_digitChar d
    rw [ends]
    exact trimEnd_append front visible fun b member => isBlank_of_between member

theorem product_eq {volume : Nat}
    (exactly : input.decimal.value * input.suffix.factor = volume) :
    ofDigits (input.decimal.whole ++ input.decimal.fraction) * input.suffix.factor =
      volume * 10 ^ input.decimal.fraction.length := by
  have scale : (10 : ℚ) ^ input.decimal.fraction.length ≠ 0 := pow_ne_zero _ (by norm_num)
  rw [Decimal.value, div_mul_eq_mul_div, div_eq_iff scale] at exactly
  exact_mod_cast exactly

end Shorthand

theorem Suffix.factor_pos (suffix : Suffix) : 0 < suffix.factor := by
  cases suffix <;> decide

theorem Suffix.factor_le (suffix : Suffix) : suffix.factor ≤ 2 ^ 30 := by
  cases suffix <;> decide

end Quantity

end Quartermaster

import Mathlib.Data.Option.Basic
import Quartermaster.Calendar.Pattern

/-!
Reading patterns. The directives are a prefix code: what a directive is read as does not depend on
what follows it (`Directive.read`), so known patterns can be put one after the other
(`Reads.append`, `Reads.of_append`). A pattern that is known in one language, or where none is
given, is known in every language (`Reads.in_language`), and all its items can be written but the
lenient zone (`isSome_renderItems?_iff`).
-/

namespace Quartermaster.Calendar

variable {locale other : Option Locale} {letter : Char} {text spelling rest : List Char}
  {items : List Item}

/-! ### Letters -/

theorem isSome_layoutOfLetter? (locale other : Option Locale) (letter : Char) :
    (layoutOfLetter? locale letter).isSome = (layoutOfLetter? other letter).isSome := by
  unfold layoutOfLetter?
  split <;> rfl

theorem exists_itemsOfLayout? {layout : String}
    (found : layoutOfLetter? locale letter = some layout) :
    ∃ items, itemsOfLayout? layout.toList = some items ∧ .lenientZone ∉ items := by
  unfold layoutOfLetter? at found
  rcases locale with _ | _ | _
  all_goals split at found
  all_goals cases found
  all_goals exact ⟨_, rfl, by decide⟩

theorem itemOfLetter?_ne_lenientZone : itemOfLetter? letter ≠ some .lenientZone := by
  unfold itemOfLetter?
  split
  · simp
  · split <;> simp

theorem itemsOfLetter?_eq_some_iff : itemsOfLetter? locale letter = some items ↔
    (∃ item, itemOfLetter? letter = some item ∧ items = [item]) ∨
      itemOfLetter? letter = none ∧
        ∃ layout, layoutOfLetter? locale letter = some layout ∧
          itemsOfLayout? layout.toList = some items := by
  unfold itemsOfLetter?
  split
  · rename_i item found
    simp [found, eq_comm]
  · rename_i none
    simp [none, Option.bind_eq_some_iff]

/-- A letter is known in every language or in none. -/
theorem exists_itemsOfLetter? (other : Option Locale)
    (known : itemsOfLetter? locale letter = some items) :
    ∃ items', itemsOfLetter? other letter = some items' := by
  rcases itemsOfLetter?_eq_some_iff.mp known with ⟨item, found, -⟩ | ⟨none, layout, found, -⟩
  · exact ⟨_, itemsOfLetter?_eq_some_iff.mpr (.inl ⟨item, found, rfl⟩)⟩
  · have same := isSome_layoutOfLetter? locale other letter
    rw [found, Option.isSome_some, eq_comm, Option.isSome_iff_exists] at same
    obtain ⟨layout', found'⟩ := same
    obtain ⟨items', read, -⟩ := exists_itemsOfLayout? found'
    exact ⟨items', itemsOfLetter?_eq_some_iff.mpr (.inr ⟨none, layout', found', read⟩)⟩

theorem lenientZone_not_mem_letter (known : itemsOfLetter? locale letter = some items) :
    .lenientZone ∉ items := by
  rcases itemsOfLetter?_eq_some_iff.mp known with ⟨item, found, rfl⟩ | ⟨-, layout, found, read⟩
  · rw [List.mem_singleton]
    rintro rfl
    exact itemOfLetter?_ne_lenientZone found
  · obtain ⟨items', read', writable⟩ := exists_itemsOfLayout? found
    obtain rfl : items = items' := Option.some.inj (read.symm.trans read')
    exact writable

/-- Signs, marks and digits that start other directives are no letters. -/
theorem not_mem_of_letter (known : itemsOfLetter? locale letter = some items) :
    letter ∉ ['-', '0', '_', '#', ':', '.', '3', '6', '9'] := by
  intro member
  simp only [List.mem_cons, List.not_mem_nil, or_false] at member
  rcases member with rfl | rfl | rfl | rfl | rfl | rfl | rfl | rfl | rfl
  all_goals cases known

theorem mem_of_precisionOfDigit? {precision : Precision}
    (places : precisionOfDigit? letter = some precision) : letter ∈ ['3', '6', '9'] := by
  unfold precisionOfDigit? at places
  split at places
  all_goals simp at places ⊢

/-! ### Directives -/

/-- The items of a directive by what stands behind its percent sign. -/
inductive Directive (locale : Option Locale) : List Char → List Item → Prop
  | letter {letter : Char} {items : List Item} (known : itemsOfLetter? locale letter = some items) :
    Directive locale [letter] items
  | padded {sign letter : Char} {padding : Padding} {item : Item}
    (fills : (sign, padding) ∈ [('-', .none), ('0', .zero), ('_', Padding.blank)])
    (number : padded? padding letter = some item) : Directive locale [sign, letter] [item]
  | lenientZone : Directive locale ['#', 'z'] [.lenientZone]
  | zone {colons : List Char} {style : ZoneStyle}
    (styled : (colons, style) ∈
      [([':'], .colon), ([':', ':'], .colons), ([':', ':', ':'], ZoneStyle.hours)]) :
    Directive locale (colons ++ ['z']) [.zone style]
  | shortestFraction : Directive locale ['.', 'f'] [.shortestFraction]
  | markedFraction {digit : Char} {precision : Precision}
    (places : precisionOfDigit? digit = some precision) :
    Directive locale ['.', digit, 'f'] [.markedFraction precision]
  | fraction {digit : Char} {precision : Precision}
    (places : precisionOfDigit? digit = some precision) :
    Directive locale [digit, 'f'] [.fraction precision]

theorem exists_directive (read : readDirective? locale text = some (items, rest)) :
    ∃ spelling, Directive locale spelling items ∧ text = spelling ++ rest := by
  unfold readDirective? at read
  split at read
  case h_1 | h_2 | h_3 =>
    obtain ⟨item, number, equal⟩ := Option.map_eq_some_iff.mp read
    cases equal
    exact ⟨_, .padded (by simp) number, rfl⟩
  case h_4 =>
    cases read
    exact ⟨_, .lenientZone, rfl⟩
  case h_5 =>
    cases read
    exact ⟨_, .zone (.head _), rfl⟩
  case h_6 =>
    cases read
    exact ⟨_, .zone (.tail _ (.head _)), rfl⟩
  case h_7 =>
    cases read
    exact ⟨_, .zone (.tail _ (.tail _ (.head _))), rfl⟩
  case h_8 =>
    cases read
    exact ⟨_, .shortestFraction, rfl⟩
  case h_9 =>
    obtain ⟨precision, places, equal⟩ := Option.map_eq_some_iff.mp read
    cases equal
    exact ⟨_, .markedFraction places, rfl⟩
  case h_10 =>
    split at read
    · cases read
      exact ⟨_, .fraction (by assumption), rfl⟩
    · obtain ⟨found, known, equal⟩ := Option.map_eq_some_iff.mp read
      cases equal
      exact ⟨_, .letter known, rfl⟩
  case h_11 => cases read

namespace Directive

/-- A directive is read the same whatever follows it. -/
theorem read (directive : Directive locale spelling items) (rest : List Char) :
    readDirective? locale (spelling ++ rest) = some (items, rest) := by
  cases directive with
  | @letter letter _ known =>
    have other := not_mem_of_letter known
    simp only [List.mem_cons, List.not_mem_nil, or_false, not_or] at other
    rw [List.singleton_append]
    unfold readDirective?
    split
    case h_10 _ _ same =>
      obtain ⟨rfl, rfl⟩ : letter = _ ∧ rest = _ := by simpa using same
      split
      case h_1 =>
        have digit : letter ∈ ['3', '6', '9'] := mem_of_precisionOfDigit? (by assumption)
        simp_all
      case h_2 => simp [known]
    all_goals simp_all
  | padded fills number =>
    simp only [List.mem_cons, Prod.mk.injEq, List.not_mem_nil, or_false] at fills
    rcases fills with ⟨rfl, rfl⟩ | ⟨rfl, rfl⟩ | ⟨rfl, rfl⟩
    all_goals simp [readDirective?, number]
  | lenientZone => rfl
  | zone styled =>
    simp only [List.mem_cons, Prod.mk.injEq, List.not_mem_nil, or_false] at styled
    rcases styled with ⟨rfl, rfl⟩ | ⟨rfl, rfl⟩ | ⟨rfl, rfl⟩
    all_goals rfl
  | shortestFraction => rfl
  | markedFraction places =>
    have digit := mem_of_precisionOfDigit? places
    simp only [List.mem_cons, List.not_mem_nil, or_false] at digit
    rcases digit with rfl | rfl | rfl
    all_goals cases places; rfl
  | fraction places =>
    have digit := mem_of_precisionOfDigit? places
    simp only [List.mem_cons, List.not_mem_nil, or_false] at digit
    rcases digit with rfl | rfl | rfl
    all_goals cases places; rfl

theorem in_language (other : Option Locale) (directive : Directive locale spelling items) :
    ∃ items', Directive other spelling items' := by
  cases directive with
  | letter known =>
    obtain ⟨items', known'⟩ := exists_itemsOfLetter? other known
    exact ⟨items', .letter known'⟩
  | padded fills number => exact ⟨_, .padded fills number⟩
  | lenientZone => exact ⟨_, .lenientZone⟩
  | zone styled => exact ⟨_, .zone styled⟩
  | shortestFraction => exact ⟨_, .shortestFraction⟩
  | markedFraction places => exact ⟨_, .markedFraction places⟩
  | fraction places => exact ⟨_, .fraction places⟩

theorem lenientZone_mem_iff (directive : Directive locale spelling items) :
    .lenientZone ∈ items ↔ spelling = ['#', 'z'] := by
  cases directive with
  | letter known => simp [lenientZone_not_mem_letter known]
  | @padded sign letter padding item fills number =>
    obtain ⟨found, -, rfl⟩ := Option.map_eq_some_iff.mp number
    suffices sign ≠ '#' by simp [this]
    rintro rfl
    simp at fills
  | lenientZone => simp
  | zone styled =>
    simp only [List.mem_cons, Prod.mk.injEq, List.not_mem_nil, or_false] at styled
    rcases styled with ⟨rfl, rfl⟩ | ⟨rfl, rfl⟩ | ⟨rfl, rfl⟩
    all_goals simp
  | shortestFraction => simp
  | markedFraction => simp
  | @fraction digit _ places =>
    have counts := mem_of_precisionOfDigit? places
    suffices digit ≠ '#' by simp [this]
    rintro rfl
    simp at counts

end Directive

/-! ### Patterns -/

/-- The items of a pattern whose directives are all known. -/
inductive Reads (locale : Option Locale) : List Char → List Item → Prop
  | nil : Reads locale [] []
  | literal {c : Char} {text : List Char} {items : List Item} (plain : c ≠ '%')
    (rest : Reads locale text items) : Reads locale (c :: text) (.literal c :: items)
  | directive {spelling text : List Char} {parts items : List Item}
    (first : Directive locale spelling parts) (rest : Reads locale text items) :
    Reads locale ('%' :: (spelling ++ text)) (parts ++ items)

theorem items?_eq_some_iff : items? locale text = some items ↔ Reads locale text items := by
  constructor
  · intro read
    fun_induction items? locale text generalizing items with
    | case1 =>
      cases read
      exact .nil
    | case2 rest parts after found ih =>
      obtain ⟨later, readLater, rfl⟩ := Option.map_eq_some_iff.mp read
      obtain ⟨spelling, directive, rfl⟩ := exists_directive found
      exact .directive directive (ih readLater)
    | case3 => cases read
    | case4 c rest plain ih =>
      obtain ⟨later, readLater, rfl⟩ := Option.map_eq_some_iff.mp read
      exact .literal plain (ih readLater)
  · intro reads
    induction reads with
    | nil => simp [items?]
    | literal plain _ ih => simp [items?, plain, ih]
    | @directive spelling text parts items first _ ih =>
      unfold items?
      simp only [↓reduceIte]
      split
      · rename_i found
        rw [first.read] at found
        cases found
        simp [ih]
      · rename_i missing
        rw [first.read] at missing
        cases missing

theorem isKnown_iff : isKnown text = true ↔ ∃ items, Reads none text items := by
  simp only [isKnown, Option.isSome_iff_exists, items?_eq_some_iff]

namespace Reads

variable {left right : List Char} {leftItems rightItems : List Item}

/-- A pattern that is known in one language is known in every other. -/
theorem in_language (other : Option Locale) (reads : Reads locale text items) :
    ∃ items', Reads other text items' := by
  induction reads with
  | nil => exact ⟨_, .nil⟩
  | literal plain _ ih =>
    obtain ⟨items', reads'⟩ := ih
    exact ⟨_, .literal plain reads'⟩
  | directive first _ ih =>
    obtain ⟨parts', first'⟩ := first.in_language other
    obtain ⟨items', reads'⟩ := ih
    exact ⟨_, .directive first' reads'⟩

theorem append (first : Reads locale left leftItems) (second : Reads locale right rightItems) :
    Reads locale (left ++ right) (leftItems ++ rightItems) := by
  induction first with
  | nil => exact second
  | literal plain _ ih => exact .literal plain ih
  | directive first _ ih =>
    rw [List.cons_append, List.append_assoc, List.append_assoc]
    exact .directive first ih

theorem of_directive {parts : List Item} (first : Directive locale spelling parts)
    (whole : Reads locale ('%' :: (spelling ++ text)) items) :
    ∃ later, items = parts ++ later ∧ Reads locale text later := by
  generalize equal : '%' :: (spelling ++ text) = pattern at whole
  cases whole with
  | nil => cases equal
  | literal plain => exact absurd (List.cons.inj equal).1.symm plain
  | @directive spelling' text' parts' later first' rest =>
    have same := first.read text
    rw [(List.cons.inj equal).2, first'.read] at same
    cases same
    exact ⟨later, rfl, rest⟩

/-- Behind a known pattern the reading starts afresh. -/
theorem of_append (first : Reads locale left leftItems)
    (whole : Reads locale (left ++ right) items) :
    ∃ rightItems, items = leftItems ++ rightItems ∧ Reads locale right rightItems := by
  induction first generalizing items with
  | nil => exact ⟨items, rfl, whole⟩
  | @literal c text later plain _ ih =>
    obtain ⟨items, rfl, rest⟩ : ∃ tail, items = .literal c :: tail ∧
        Reads locale (text ++ right) tail := by
      generalize equal : (c :: text) ++ right = pattern at whole
      cases whole with
      | nil => cases equal
      | literal _ rest =>
        cases equal
        exact ⟨_, rfl, rest⟩
      | directive => exact absurd (List.cons.inj equal).1 plain
    obtain ⟨rightItems, rfl, second⟩ := ih rest
    exact ⟨rightItems, rfl, second⟩
  | directive first _ ih =>
    rw [List.cons_append, List.append_assoc] at whole
    obtain ⟨items, rfl, rest⟩ := of_directive first whole
    obtain ⟨rightItems, rfl, second⟩ := ih rest
    exact ⟨rightItems, (List.append_assoc ..).symm, second⟩

end Reads

/-! ### The lenient zone -/

/-- The pattern asks for the lenient zone somewhere behind a part that is known by itself. -/
def AsksLenientZone (pattern : List Char) : Prop :=
  ∃ before after, pattern = before ++ '%' :: '#' :: 'z' :: after ∧ isKnown before = true

/-- Among the items of a pattern is the lenient zone just where the pattern asks for it. -/
theorem Reads.lenientZone_mem_iff (reads : Reads locale text items) :
    .lenientZone ∈ items ↔ AsksLenientZone text := by
  constructor
  · intro member
    induction reads with
    | nil => cases member
    | @literal c text items plain _ ih =>
      obtain ⟨before, after, rfl, known⟩ := ih (by simpa using member)
      obtain ⟨beforeItems, reads⟩ := isKnown_iff.mp known
      exact ⟨c :: before, after, rfl, isKnown_iff.mpr ⟨_, .literal plain reads⟩⟩
    | @directive spelling text parts items first _ ih =>
      rcases List.mem_append.mp member with here | later
      · obtain rfl := first.lenientZone_mem_iff.mp here
        exact ⟨[], text, rfl, isKnown_iff.mpr ⟨_, .nil⟩⟩
      · obtain ⟨before, after, rfl, known⟩ := ih later
        obtain ⟨beforeItems, reads⟩ := isKnown_iff.mp known
        obtain ⟨parts', first'⟩ := first.in_language none
        exact ⟨'%' :: (spelling ++ before), after, by simp,
          isKnown_iff.mpr ⟨_, .directive first' reads⟩⟩
  · rintro ⟨before, after, rfl, known⟩
    obtain ⟨_, readsBefore⟩ := isKnown_iff.mp known
    obtain ⟨beforeItems, readsBefore⟩ := readsBefore.in_language locale
    obtain ⟨rightItems, rfl, right⟩ := readsBefore.of_append reads
    obtain ⟨afterItems, rfl, -⟩ := of_directive .lenientZone right
    simp

/-! ### Writing -/

variable {instant : Instant}

theorem Item.isSome_render?_iff {language : Locale} {item : Item} :
    (item.render? language instant).isSome ↔ item ≠ .lenientZone := by
  cases item <;> simp [Item.render?]

theorem isSome_renderItems?_iff {language : Locale} :
    (renderItems? language instant items).isSome ↔ .lenientZone ∉ items := by
  unfold renderItems?
  rw [Option.isSome_map]
  induction items with
  | nil => simp
  | cons item items ih =>
    have writes : (item.render? language instant).isSome ↔ ¬.lenientZone = item :=
      Item.isSome_render?_iff.trans ne_comm
    rw [List.mapM_cons, List.mem_cons, not_or, ← ih, ← writes]
    cases item.render? language instant with
    | none => simp
    | some text => cases items.mapM (Item.render? language instant) <;> simp

/-- The pattern passes its check, but no point in time can be written with it. -/
def IsUnwritable (pattern : String) : Prop :=
  isKnown pattern.toList = true ∧ AsksLenientZone pattern.toList

/-- What comes of a pattern is settled before a point in time and a language are chosen. -/
theorem Instant.format_cases (locale : Locale) (instant : Instant) (pattern : String) :
    isKnown pattern.toList = false ∧
        instant.format locale pattern = .error (.invalidPattern pattern) ∨
      isKnown pattern.toList = true ∧ ¬IsUnwritable pattern ∧
        (∃ text, instant.format locale pattern = .ok text) ∨
      IsUnwritable pattern ∧ instant.format locale pattern = .error .unwritable := by
  unfold Instant.format
  cases known : isKnown pattern.toList with
  | false => exact .inl ⟨rfl, rfl⟩
  | true =>
    obtain ⟨_, reads⟩ := isKnown_iff.mp known
    obtain ⟨items, reads⟩ := reads.in_language (some locale)
    have writes : (renderItems? locale instant items).isSome ↔ _ := isSome_renderItems?_iff
    rw [items?_eq_some_iff.mpr reads, Option.bind_some]
    rw [reads.lenientZone_mem_iff] at writes
    cases text : renderItems? locale instant items with
    | none =>
      rw [text] at writes
      have asks : AsksLenientZone pattern.toList := by simpa using writes
      exact .inr (.inr ⟨⟨known, asks⟩, rfl⟩)
    | some text' =>
      rw [text] at writes
      exact .inr (.inl ⟨rfl, fun unwritable => writes.mp rfl unwritable.2, _, rfl⟩)

theorem Instant.format_unwritable_iff {locale : Locale} {pattern : String} :
    instant.format locale pattern = .error .unwritable ↔ IsUnwritable pattern := by
  rcases instant.format_cases locale pattern with ⟨unknown, read⟩ | ⟨-, writable, text, read⟩ |
    ⟨unwritable, read⟩
  · rw [read]
    exact iff_of_false nofun fun unwritable => by simp [unwritable.1] at unknown
  · rw [read]
    exact iff_of_false nofun writable
  · exact iff_of_true read unwritable

end Quartermaster.Calendar

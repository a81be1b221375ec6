import Mathlib.Control.Monad.Basic
import Quartermaster.Proofs.Calendar.Pattern

/-!
Patterns one after the other. Behind a pattern that is known the reading starts afresh, so whether
a longer pattern is known depends on what follows alone (`isKnown_append`), and a point in time is
written by one part after the other (`Instant.format_append`). Without a percent sign a pattern
stands for itself (`reads_plain`).
-/

namespace Quartermaster.Calendar

variable {locale : Locale} {instant : Instant} {left right : String} {items later : List Item}

/-! ### Items one after the other -/

theorem renderItems?_nil (locale : Locale) (instant : Instant) :
    renderItems? locale instant [] = some [] := rfl

theorem renderItems?_cons (locale : Locale) (instant : Instant) (item : Item) (items : List Item) :
    renderItems? locale instant (item :: items) =
      (item.render? locale instant).bind fun text =>
        (renderItems? locale instant items).map (text ++ ·) := by
  unfold renderItems?
  rw [List.mapM_cons]
  cases item.render? locale instant with
  | none => rfl
  | some text => cases items.mapM (Item.render? locale instant) <;> rfl

theorem renderItems?_append (locale : Locale) (instant : Instant) (items later : List Item) :
    renderItems? locale instant (items ++ later) =
      (renderItems? locale instant items).bind fun text =>
        (renderItems? locale instant later).map (text ++ ·) := by
  induction items with
  | nil => simp [renderItems?_nil]
  | cons item items ih =>
    rw [List.cons_append, renderItems?_cons, renderItems?_cons, ih]
    cases item.render? locale instant with
    | none => rfl
    | some text =>
      cases renderItems? locale instant items with
      | none => rfl
      | some front => cases renderItems? locale instant later <;> simp

theorem Instant.format_of_reads {text : List Char} (reads : Reads (some locale) left.toList items)
    (written : renderItems? locale instant items = some text) :
    instant.format locale left = .ok (String.ofList text) := by
  have known : isKnown left.toList = true := isKnown_iff.mpr (reads.in_language none)
  rw [Instant.format, if_pos known, items?_eq_some_iff.mpr reads, Option.bind_some, written]

/-! ### Patterns one after the other -/

theorem isKnown_append (known : isKnown left.toList = true) :
    isKnown (left ++ right).toList = isKnown right.toList := by
  obtain ⟨items, reads⟩ := isKnown_iff.mp known
  rw [String.toList_append, Bool.eq_iff_iff, isKnown_iff, isKnown_iff]
  constructor
  · rintro ⟨_, whole⟩
    obtain ⟨later, -, behind⟩ := reads.of_append whole
    exact ⟨later, behind⟩
  · rintro ⟨later, behind⟩
    exact ⟨items ++ later, reads.append behind⟩

/-- A point in time is not written by a pattern because the pattern has an unknown directive. -/
def Instant.Refuses (instant : Instant) (locale : Locale) (pattern : String) : Prop :=
  instant.format locale pattern = .error (.invalidPattern pattern)

theorem Instant.refuses_iff {pattern : String} :
    instant.Refuses locale pattern ↔ isKnown pattern.toList = false := by
  unfold Instant.Refuses
  rcases instant.format_cases locale pattern with ⟨unknown, read⟩ | ⟨known, -, text, read⟩ |
    ⟨unwritable, read⟩
  · exact iff_of_true read unknown
  · rw [read, known]
    exact iff_of_false nofun nofun
  · rw [read, unwritable.1]
    exact iff_of_false nofun nofun

/-- Besides unknown directives only the lenient zone keeps a point in time from being written. -/
theorem Instant.exists_format_iff {pattern : String} :
    (∃ text, instant.format locale pattern = .ok text) ↔
      ¬instant.Refuses locale pattern ∧ ¬AsksLenientZone pattern.toList := by
  rw [refuses_iff, Bool.not_eq_false]
  rcases instant.format_cases locale pattern with ⟨unknown, read⟩ | ⟨known, writable, text, read⟩ |
    ⟨unwritable, read⟩
  · rw [read, unknown]
    exact iff_of_false nofun nofun
  · have plain : ¬AsksLenientZone pattern.toList := fun asks => writable ⟨known, asks⟩
    exact iff_of_true ⟨text, read⟩ ⟨known, plain⟩
  · rw [read]
    exact iff_of_false nofun fun plain => plain.2 unwritable.2

theorem Instant.exists_renderItems? (known : isKnown left.toList = true)
    (writable : ¬AsksLenientZone left.toList) :
    ∃ items text, Reads (some locale) left.toList items ∧
      renderItems? locale instant items = some text := by
  obtain ⟨_, reads⟩ := isKnown_iff.mp known
  obtain ⟨items, reads⟩ := reads.in_language (some locale)
  have absent : .lenientZone ∉ items := by
    intro member
    exact writable (reads.lenientZone_mem_iff.mp member)
  have written : (renderItems? locale instant items).isSome = true :=
    isSome_renderItems?_iff.mpr absent
  obtain ⟨text, written⟩ := Option.isSome_iff_exists.mp written
  exact ⟨items, text, reads, written⟩

/-- A pattern without a percent sign consists of literals, which are written as they are. -/
theorem reads_plain {pattern : List Char} (plain : '%' ∉ pattern) :
    ∃ items, Reads (some locale) pattern items ∧
      renderItems? locale instant items = some pattern := by
  induction pattern with
  | nil => exact ⟨[], .nil, rfl⟩
  | cons c rest ih =>
    rw [List.mem_cons, not_or] at plain
    obtain ⟨items, reads, written⟩ := ih plain.2
    refine ⟨.literal c :: items, .literal (Ne.symm plain.1) reads, ?_⟩
    rw [renderItems?_cons, written]
    rfl

/--
Behind a pattern that is not refused and can be written, another one is refused just when it is
refused by itself; else both are written, one after the other. A pattern without directives is
written as it is.
-/
theorem Instant.format_append (locale : Locale) (instant : Instant) {left right : String}
    (accepted : ¬instant.Refuses locale left) (writable : ¬AsksLenientZone left.toList) :
    (instant.Refuses locale (left ++ right) ↔ instant.Refuses locale right) ∧
      (¬instant.Refuses locale right → ¬AsksLenientZone right.toList →
        ∃ written text, instant.format locale left = .ok written ∧
          instant.format locale right = .ok text ∧
          instant.format locale (left ++ right) = .ok (written ++ text)) ∧
      ∀ pattern : String, '%' ∉ pattern.toList → instant.format locale pattern = .ok pattern := by
  rw [refuses_iff, Bool.not_eq_false] at accepted
  refine ⟨?_, ?_, ?_⟩
  · rw [refuses_iff, refuses_iff, isKnown_append accepted]
  · intro accepted' writable'
    rw [refuses_iff, Bool.not_eq_false] at accepted'
    obtain ⟨items, front, reads, written⟩ := instant.exists_renderItems? accepted writable
    obtain ⟨later, back, reads', written'⟩ := instant.exists_renderItems? accepted' writable'
    have whole : Reads (some locale) (left ++ right).toList (items ++ later) := by
      rw [String.toList_append]
      exact reads.append reads'
    have both : renderItems? locale instant (items ++ later) = some (front ++ back) := by
      rw [renderItems?_append, written, written']
      rfl
    refine ⟨_, _, instant.format_of_reads reads written,
      instant.format_of_reads reads' written', ?_⟩
    rw [instant.format_of_reads whole both, String.ofList_append]
  · intro pattern plain
    obtain ⟨items, reads, written⟩ := reads_plain plain
    rw [instant.format_of_reads reads written, String.ofList_toList]

/-- The first pattern ends in a directive for milliseconds, whose last letter starts the second. -/
theorem Instant.format_append_fraction :
    let instant : Instant := ⟨⟨2025, 3, 4, by decide⟩, ⟨18, 30, 0, 5000000, by decide⟩⟩
    ¬instant.Refuses .spanish "%-d%3f" ∧ ¬AsksLenientZone "%-d%3f".toList ∧
      (instant.Refuses .spanish ("%-d%3f" ++ "f%:::z") ↔ instant.Refuses .spanish "f%:::z") ∧
      (¬instant.Refuses .spanish "f%:::z" → ¬AsksLenientZone "f%:::z".toList →
        ∃ written text, instant.format .spanish "%-d%3f" = .ok written ∧
          instant.format .spanish "f%:::z" = .ok text ∧
          instant.format .spanish ("%-d%3f" ++ "f%:::z") = .ok (written ++ text)) ∧
      ∀ pattern : String, '%' ∉ pattern.toList →
        instant.format .spanish pattern = .ok pattern := by
  intro instant
  have written : instant.format .spanish "%-d%3f" = .ok "4005" := by decide +kernel
  obtain ⟨accepted, writable⟩ := Instant.exists_format_iff.mp ⟨_, written⟩
  exact ⟨accepted, writable, instant.format_append .spanish accepted writable⟩

end Quartermaster.Calendar

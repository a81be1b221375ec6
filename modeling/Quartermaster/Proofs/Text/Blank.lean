import Mathlib.Data.List.Induction
import Mathlib.Data.List.TakeWhile
import Quartermaster.Text.Blank
import Quartermaster.Text.Case
import Quartermaster.Text.Decimal

/-!
Blanks around a text: what is trimmed, and where trimming stops. Blanks are neither digits nor
capitals, so numerals are not trimmed and lower case leaves blanks alone. So it makes no difference
whether a text is trimmed before capitals (`trim_lower`) or commas (`trim_filter`) are taken away,
if it is trimmed once more afterwards.
-/

namespace Quartermaster.Text

variable {text blanks : List Char} {c : Char}

/-! ### Trimming -/

theorem exists_dropEndWhile {α : Type} (p : α → Bool) (xs : List α) :
    ∃ dropped, xs = dropEndWhile p xs ++ dropped ∧ ∀ x ∈ dropped, p x = true := by
  refine ⟨(xs.reverse.takeWhile p).reverse, ?_, ?_⟩
  · rw [dropEndWhile, ← List.reverse_append, List.takeWhile_append_dropWhile, List.reverse_reverse]
  · intro x member
    exact List.mem_takeWhile_imp (List.mem_reverse.mp member)

theorem dropEndWhile_append {α : Type} {p : α → Bool} (xs : List α) {dropped : List α}
    (all : ∀ x ∈ dropped, p x = true) : dropEndWhile p (xs ++ dropped) = dropEndWhile p xs := by
  rw [dropEndWhile, List.reverse_append, List.dropWhile_append_of_pos, dropEndWhile]
  intro x member
  exact all x (List.mem_reverse.mp member)

theorem dropEndWhile_append_of_neg {α : Type} {p : α → Bool} (xs : List α) {kept : List α}
    (some : kept ≠ []) (none : ∀ x ∈ kept, p x = false) :
    dropEndWhile p (xs ++ kept) = xs ++ kept := by
  obtain ⟨init, last, rfl⟩ := (List.eq_nil_or_concat kept).resolve_left some
  rw [List.concat_eq_append, ← List.append_assoc]
  exact dropEndWhile_concat_of_neg _ _ _ (none last (by simp))

/-- A text that ends visibly is kept, whatever blanks follow. -/
theorem trimEnd_append (text : List Char) (visible : isBlank c = false)
    (blank : ∀ b ∈ blanks, isBlank b = true) : trimEnd (text ++ [c] ++ blanks) = text ++ [c] := by
  rw [trimEnd, dropEndWhile_append _ blank, dropEndWhile_concat_of_neg _ _ _ visible]

theorem trimStart_cons (visible : isBlank c = false) (rest : List Char) :
    trimStart (c :: rest) = c :: rest := by
  simp [trimStart, visible]

theorem trimStart_append (blank : ∀ b ∈ blanks, isBlank b = true) (visible : isBlank c = false)
    (rest : List Char) : trimStart (blanks ++ c :: rest) = c :: rest := by
  rw [trimStart, List.dropWhile_append_of_pos blank]
  exact trimStart_cons visible rest

theorem isBlank_digitChar (d : Digit) : isBlank (digitChar d) = false := by
  revert d
  decide

theorem trimStart_digits {ds : List Digit} (some : ds ≠ []) (rest : List Char) :
    trimStart (ds.map digitChar ++ rest) = ds.map digitChar ++ rest := by
  cases ds with
  | nil => contradiction
  | cons d ds => exact trimStart_cons (isBlank_digitChar d) _

theorem trim_of_visible (visible : ∀ c ∈ text, isBlank c = false) : trim text = text := by
  cases text with
  | nil => rfl
  | cons c rest =>
    rw [trim, trimStart_cons (visible c List.mem_cons_self)]
    exact dropEndWhile_append_of_neg [] (List.cons_ne_nil c rest) visible

/-- A text is what is left when it is trimmed, with blanks on either side. -/
theorem exists_trim (text : List Char) : ∃ before after, text = before ++ trim text ++ after ∧
    (∀ b ∈ before, isBlank b = true) ∧ ∀ b ∈ after, isBlank b = true := by
  obtain ⟨after, cut, blank⟩ := exists_dropEndWhile isBlank (trimStart text)
  refine ⟨text.takeWhile isBlank, after, ?_, fun b member => List.mem_takeWhile_imp member, blank⟩
  rw [List.append_assoc, trim, trimEnd, ← cut, trimStart, List.takeWhile_append_dropWhile]

theorem mem_of_mem_trim (member : c ∈ trim text) : c ∈ text := by
  obtain ⟨before, after, cut, -, -⟩ := exists_trim text
  rw [cut]
  simp [member]

/-- Blanks on either side do not matter to what is left. -/
theorem trim_append {before after : List Char} (blankBefore : ∀ b ∈ before, isBlank b = true)
    (blankAfter : ∀ b ∈ after, isBlank b = true) (text : List Char) :
    trim (before ++ text ++ after) = trim text := by
  have behind : trimStart after = [] := List.dropWhile_eq_nil_iff.mpr blankAfter
  have front : trimStart (before ++ text ++ after) = trimStart (text ++ after) := by
    rw [List.append_assoc, trimStart, List.dropWhile_append_of_pos blankBefore, trimStart]
  have split : trimStart (text ++ after) =
      if (trimStart text).isEmpty then trimStart after else trimStart text ++ after :=
    List.dropWhile_append
  rw [trim, front, split, behind, trim]
  cases left : trimStart text with
  | nil => rfl
  | cons c rest => exact dropEndWhile_append (c :: rest) blankAfter

/-- Trimming before others are filtered out makes no difference to what is left at last. -/
theorem trim_filter (p : Char → Bool) (text : List Char) :
    trim ((trim text).filter p) = trim (text.filter p) := by
  have stays {blanks : List Char} (blank : ∀ b ∈ blanks, isBlank b = true) :
      ∀ b ∈ blanks.filter p, isBlank b = true :=
    fun b member => blank b (List.mem_filter.mp member).1
  obtain ⟨before, after, cut, blankBefore, blankAfter⟩ := exists_trim text
  have apart : text.filter p = before.filter p ++ (trim text).filter p ++ after.filter p := by
    rw [← List.filter_append, ← List.filter_append, ← cut]
  rw [apart, trim_append (stays blankBefore) (stays blankAfter)]

/-! ### Blanks among other characters -/

/-- Blanks stand before and behind the letters and digits of ASCII. -/
theorem toNat_of_isBlank (blank : isBlank c = true) : c.toNat ≤ 0x20 ∨ 0x85 ≤ c.toNat := by
  simp only [isBlank, Bool.or_eq_true, Bool.and_eq_true, decide_eq_true_eq, beq_iff_eq] at blank
  omega

theorem toLower_cases (c : Char) : c.toLower = c ∨
    0x41 ≤ c.toNat ∧ c.toNat ≤ 0x5A ∧ c.toLower.toNat = c.toNat + 0x20 := by
  by_cases capital : c.val ≥ 'A'.val ∧ c.val ≤ 'Z'.val
  · right
    have low : 0x41 ≤ c.toNat := capital.1
    have high : c.toNat ≤ 0x5A := capital.2
    have small : c.toLower.toNat = (c.val + 0x20).toNat := congrArg Char.toNat (dif_pos capital)
    have sum : (c.val + 0x20).toNat = (c.toNat + 0x20) % 2 ^ 32 := UInt32.toNat_add _ _
    refine ⟨low, high, ?_⟩
    rw [small, sum]
    omega
  · exact .inl (dif_neg capital)

theorem lowerChar_of_isBlank (blank : isBlank c = true) : lowerChar c = [c] := by
  have notKelvin : c ≠ '\u212A' := by
    rintro rfl
    contradiction
  have notDotted : c ≠ '\u0130' := by
    rintro rfl
    contradiction
  have kept : c.toLower = c := by
    rcases toLower_cases c with same | ⟨low, high, -⟩
    · exact same
    · rcases toNat_of_isBlank blank with before | behind <;> omega
  rw [lowerChar, if_neg notKelvin, if_neg notDotted, kept]

theorem lowerChar_digitChar (d : Digit) : lowerChar (digitChar d) = [digitChar d] := by
  revert d
  decide

theorem charDigit?_of_isBlank (blank : isBlank c = true) : charDigit? c = none := by
  refine dif_neg fun digit => ?_
  rcases toNat_of_isBlank blank with before | behind <;> omega

theorem lower_of_forall (kept : ∀ c ∈ text, lowerChar c = [c]) : lower text = text := by
  induction text with
  | nil => rfl
  | cons c rest ih =>
    rw [lower, List.flatMap_cons, kept c List.mem_cons_self]
    exact congrArg (c :: ·) (ih fun other member => kept other (.tail _ member))

/-! ### Lower case of what is not blank -/

theorem lowerChar_ne_nil (c : Char) : lowerChar c ≠ [] := by
  unfold lowerChar
  split
  · simp
  · split <;> simp

theorem visible_of_mem_lowerChar (visible : isBlank c = false) :
    ∀ x ∈ lowerChar c, isBlank x = false := by
  unfold lowerChar
  split
  · rw [List.forall_mem_singleton]
    rfl
  · split
    · rw [List.forall_mem_cons, List.forall_mem_singleton]
      exact ⟨rfl, rfl⟩
    · rw [List.forall_mem_singleton]
      rcases toLower_cases c with same | ⟨low, high, small⟩
      · rwa [same]
      · refine Bool.eq_false_iff.mpr fun blank => ?_
        rcases toNat_of_isBlank blank with before | behind <;> omega

theorem comma_mem_lowerChar_iff : ',' ∈ lowerChar c ↔ c = ',' := by
  constructor
  · intro member
    unfold lowerChar at member
    split at member
    · contradiction
    · split at member
      · contradiction
      · have comma := List.mem_singleton.mp member
        rcases toLower_cases c with same | ⟨low, -, small⟩
        · rw [← same, ← comma]
        · have mark : c.toLower.toNat = 0x2C := congrArg Char.toNat comma.symm
          omega
  · rintro rfl
    decide

theorem trimStart_lower (text : List Char) : trimStart (lower text) = lower (trimStart text) := by
  induction text with
  | nil => rfl
  | cons c rest ih =>
    have split : lower (c :: rest) = lowerChar c ++ lower rest := List.flatMap_cons
    cases blank : isBlank c with
    | true =>
      rw [split, lowerChar_of_isBlank blank, trimStart, trimStart, List.dropWhile_cons_of_pos blank,
        List.singleton_append, List.dropWhile_cons_of_pos blank]
      exact ih
    | false =>
      have visible := visible_of_mem_lowerChar blank
      rw [trimStart_cons blank, split]
      cases small : lowerChar c with
      | nil => exact absurd small (lowerChar_ne_nil c)
      | cons x more =>
        rw [List.cons_append]
        exact trimStart_cons (visible x (by simp [small])) _

theorem trimEnd_lower (text : List Char) : trimEnd (lower text) = lower (trimEnd text) := by
  induction text using List.reverseRecOn with
  | nil => rfl
  | append_singleton front c ih =>
    have last : lower [c] = lowerChar c := List.flatMap_singleton _ _
    rw [lower_append, last, trimEnd, trimEnd]
    cases blank : isBlank c with
    | true =>
      rw [lowerChar_of_isBlank blank, dropEndWhile_concat_of_pos _ _ _ blank,
        dropEndWhile_concat_of_pos _ _ _ blank]
      exact ih
    | false =>
      rw [dropEndWhile_concat_of_neg _ _ _ blank, lower_append, last]
      exact dropEndWhile_append_of_neg _ (lowerChar_ne_nil c) (visible_of_mem_lowerChar blank)

theorem trim_lower (text : List Char) : trim (lower text) = lower (trim text) := by
  rw [trim, trimStart_lower, trimEnd_lower, trim]

theorem filter_lower (text : List Char) :
    (lower text).filter (· ≠ ',') = lower (text.filter (· ≠ ',')) := by
  induction text with
  | nil => rfl
  | cons c rest ih =>
    have split : lower (c :: rest) = lowerChar c ++ lower rest := List.flatMap_cons
    rw [split, List.filter_append, ih]
    by_cases comma : c = ','
    · subst comma
      rfl
    · have kept : (lowerChar c).filter (· ≠ ',') = lowerChar c := by
        refine List.filter_eq_self.mpr fun x member => ?_
        simp only [decide_eq_true_eq]
        rintro rfl
        exact comma (comma_mem_lowerChar_iff.mp member)
      rw [kept, List.filter_cons_of_pos (by simpa using comma)]
      exact List.flatMap_cons.symm

end Quartermaster.Text

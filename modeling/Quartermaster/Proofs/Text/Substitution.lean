import Mathlib.Data.List.Infix
import Quartermaster.Text.Substitution

/-!
Replacing a mark. A text is read from left to right, an occurrence of the mark at a time
(`substitute_induction`). Where a character stands that the mark does not hold, the parts on either
side of it are replaced each by itself (`substitute_append_cons`). A replacement leaves a text as it
is just when the mark does not occur, or is put in for itself (`substitute_eq_self_iff`). Replacing
several marks at once differs from replacing one after the other in that what was put in for one
mark is not searched for the next (`substituteAll`).
-/

namespace Quartermaster.Text

variable {mark replacement text front back rest : List Char} {c : Char}

/--
Replaces every occurrence of every mark at once. What was put in is not looked at again; of several
marks at one place the first of the list counts.
-/
def substituteAll (replacements : List (List Char × List Char)) (text : List Char) : List Char :=
  go 0 text
where
  /-- Goes on behind so many characters that belong to an occurrence. -/
  go : Nat → List Char → List Char
    | _, [] => []
    | skipped + 1, _ :: rest => go skipped rest
    | 0, c :: rest =>
      match replacements.find? fun (mark, _) => mark ≠ [] ∧ mark.isPrefixOf (c :: rest) with
      | some (mark, replacement) => replacement ++ go (mark.length - 1) rest
      | none => c :: go 0 rest

/-- With one mark there is no difference. -/
theorem substituteAll_singleton (mark replacement text : List Char) :
    substituteAll [(mark, replacement)] text = substitute mark replacement text := by
  unfold substituteAll substitute
  generalize 0 = skipped
  induction text generalizing skipped with
  | nil => cases skipped <;> rfl
  | cons c rest ih =>
    cases skipped with
    | succ skipped => exact ih skipped
    | zero =>
      rw [substituteAll.go, substitute.go]
      by_cases occurs : mark ≠ [] ∧ mark.isPrefixOf (c :: rest)
      · rw [if_pos occurs, List.find?_cons_of_pos (by simpa using occurs)]
        exact congrArg (replacement ++ ·) (ih (mark.length - 1))
      · rw [if_neg occurs, List.find?_cons_of_neg (by simpa using occurs)]
        exact congrArg (c :: ·) (ih 0)

/-! ### One occurrence at a time -/

theorem substitute_nil (mark replacement : List Char) : substitute mark replacement [] = [] := rfl

theorem substitute_go_append (front rest : List Char) :
    substitute.go mark replacement front.length (front ++ rest) =
      substitute mark replacement rest := by
  induction front with
  | nil => rfl
  | cons c front ih => exact ih

theorem substitute_append_left (some : mark ≠ []) (rest : List Char) :
    substitute mark replacement (mark ++ rest) =
      replacement ++ substitute mark replacement rest := by
  cases mark with
  | nil => contradiction
  | cons c more =>
    have occurs : (c :: more).isPrefixOf (c :: (more ++ rest)) = true :=
      List.isPrefixOf_iff_prefix.mpr ⟨rest, rfl⟩
    rw [List.cons_append, substitute, substitute.go, if_pos ⟨some, occurs⟩]
    exact congrArg (replacement ++ ·) (substitute_go_append more rest)

theorem substitute_cons (absent : ¬mark <+: c :: rest) :
    substitute mark replacement (c :: rest) = c :: substitute mark replacement rest := by
  rw [substitute, substitute.go, if_neg]
  · rfl
  · intro occurs
    exact absent (List.isPrefixOf_iff_prefix.mp occurs.2)

/-- A text is empty, or starts with an occurrence or with a character at which none starts. -/
theorem substitute_induction {motive : List Char → Prop} (some : mark ≠ []) (nil : motive [])
    (marked : ∀ rest, motive rest → motive (mark ++ rest))
    (plain : ∀ c rest, ¬mark <+: c :: rest → motive rest → motive (c :: rest))
    (text : List Char) : motive text := by
  -- an occurrence takes several characters at once, so the induction is on the length
  induction size : text.length using Nat.strong_induction_on generalizing text with
  | h n ih =>
    subst size
    cases text with
    | nil => exact nil
    | cons c rest =>
      by_cases occurs : mark <+: c :: rest
      · obtain ⟨behind, whole⟩ := occurs
        have shorter : behind.length < (c :: rest).length := by
          have counted := congrArg List.length whole
          have positive := List.length_pos_iff.mpr some
          rw [List.length_append] at counted
          omega
        rw [← whole]
        exact marked behind (ih _ shorter behind rfl)
      · exact plain c rest occurs (ih _ (Nat.lt_succ_self _) rest rfl)

/-! ### Where a mark does not reach -/

/-- A mark does not reach over a character that it does not hold. -/
theorem prefix_of_not_mem (apart : c ∉ mark) (occurs : mark <+: front ++ c :: back) :
    mark <+: front := by
  have whole : front ++ c :: back = (front ++ [c]) ++ back := by simp
  by_cases short : mark.length ≤ front.length
  · exact List.prefix_of_prefix_length_le occurs (List.prefix_append _ _) short
  · rw [whole] at occurs
    have long : (front ++ [c]).length ≤ mark.length := by
      rw [List.length_append, List.length_singleton]
      omega
    have reaches := List.prefix_of_prefix_length_le (List.prefix_append _ back) occurs long
    exact absurd (reaches.subset (by simp)) apart

theorem substitute_append_cons (some : mark ≠ []) (apart : c ∉ mark) (front back : List Char) :
    substitute mark replacement (front ++ c :: back) =
      substitute mark replacement front ++ c :: substitute mark replacement back := by
  induction front using substitute_induction some with
  | nil =>
    apply substitute_cons
    intro occurs
    have empty : mark <+: [] := prefix_of_not_mem apart occurs
    exact some (List.prefix_nil.mp empty)
  | marked rest ih =>
    rw [List.append_assoc, substitute_append_left some, substitute_append_left some, ih,
      List.append_assoc]
  | plain d rest absent ih =>
    have absent' : ¬mark <+: d :: (rest ++ c :: back) := by
      intro occurs
      exact absent (prefix_of_not_mem apart occurs)
    rw [List.cons_append, substitute_cons absent', substitute_cons absent, ih]
    rfl

/-! ### Texts that are left as they are -/

theorem substitute_of_not_infix (some : mark ≠ []) (absent : ¬mark <:+: text) :
    substitute mark replacement text = text := by
  induction text using substitute_induction some with
  | nil => rfl
  | marked rest ih => exact absurd (List.prefix_append mark rest).isInfix absent
  | plain c rest _ ih =>
    rw [substitute_cons (by assumption), ih]
    intro later
    exact absent (List.infix_cons later)

theorem substitute_self (some : mark ≠ []) (text : List Char) :
    substitute mark mark text = text := by
  induction text using substitute_induction some with
  | nil => rfl
  | marked rest ih => rw [substitute_append_left some, ih]
  | plain c rest absent ih => rw [substitute_cons absent, ih]

/-- The lengths before and after differ by the occurrences. -/
theorem length_substitute (some : mark ≠ []) (replacement text : List Char) :
    ∃ kept count, text.length = kept + count * mark.length ∧
      (substitute mark replacement text).length = kept + count * replacement.length ∧
      (mark <:+: text → 0 < count) := by
  induction text using substitute_induction some with
  | nil =>
    refine ⟨0, 0, by simp, by simp [substitute_nil], ?_⟩
    intro occurs
    exact absurd (List.infix_nil.mp occurs) some
  | marked rest ih =>
    obtain ⟨kept, count, before, after, -⟩ := ih
    refine ⟨kept, count + 1, ?_, ?_, fun _ => Nat.succ_pos count⟩
    · rw [List.length_append, before, Nat.succ_mul]
      omega
    · rw [substitute_append_left some, List.length_append, after, Nat.succ_mul]
      omega
  | plain c rest absent ih =>
    obtain ⟨kept, count, before, after, positive⟩ := ih
    refine ⟨kept + 1, count, ?_, ?_, ?_⟩
    · rw [List.length_cons, before]
      omega
    · rw [substitute_cons absent, List.length_cons, after]
      omega
    · intro occurs
      exact positive ((List.infix_cons_iff.mp occurs).resolve_left absent)

/-- What is put in at an occurrence shows, unless it is the mark itself. -/
theorem replacement_eq_of_substitute (some : mark ≠ []) (occurs : mark <:+: text)
    (same : substitute mark replacement text = text) : replacement = mark := by
  -- with equal lengths the first occurrence can be compared with what stands in its place
  have equal : replacement.length = mark.length := by
    obtain ⟨kept, count, before, after, positive⟩ := length_substitute some replacement text
    rw [same, before] at after
    exact (Nat.eq_of_mul_eq_mul_left (positive occurs) (Nat.add_left_cancel after)).symm
  induction text using substitute_induction some with
  | nil => exact absurd (List.infix_nil.mp occurs) some
  | marked rest ih =>
    rw [substitute_append_left some] at same
    exact (List.append_inj same equal).1
  | plain c rest absent ih =>
    rw [substitute_cons absent] at same
    exact ih ((List.infix_cons_iff.mp occurs).resolve_left absent) (List.cons.inj same).2

theorem substitute_eq_self_iff (some : mark ≠ []) :
    substitute mark replacement text = text ↔ ¬mark <:+: text ∨ replacement = mark := by
  constructor
  · intro same
    by_cases occurs : mark <:+: text
    · exact .inr (replacement_eq_of_substitute some occurs same)
    · exact .inl occurs
  · rintro (absent | rfl)
    · exact substitute_of_not_infix some absent
    · exact substitute_self some text

end Quartermaster.Text

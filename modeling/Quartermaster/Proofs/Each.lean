import Mathlib.Data.List.Forall2

/-!
Lists whose items stand beside each other, and what can fail, done for each item of a list in order:
it succeeds with values that stand beside the items (`mapM_eq_ok_iff`), or fails as it does for one
of them.
-/

namespace Quartermaster

variable {α β ε : Type} {items : List α} {values : List β}

/-! ### Items beside each other -/

theorem exists_beside {fits : α → β → Prop} {item : α} (each : List.Forall₂ fits items values)
    (member : item ∈ items) : ∃ value ∈ values, fits item value := by
  induction each with
  | nil => contradiction
  | cons here later ih =>
    rcases List.mem_cons.mp member with rfl | further
    · exact ⟨_, List.mem_cons_self, here⟩
    · obtain ⟨value, present, fit⟩ := ih further
      exact ⟨value, .tail _ present, fit⟩

theorem head?_of_forall₂ {fits : α → β → Prop} (each : List.Forall₂ fits items values) :
    Option.Rel fits items.head? values.head? := by
  cases each with
  | nil => exact .none
  | cons here later => exact .some here

theorem getLast?_of_forall₂ {fits : α → β → Prop} (each : List.Forall₂ fits items values) :
    Option.Rel fits items.getLast? values.getLast? := by
  rw [← List.head?_reverse, ← List.head?_reverse]
  exact head?_of_forall₂ (List.forall₂_reverse_iff.mpr each)

theorem forall₂_replace {fits : α → β → Prop} {front back : List α} {item other : α}
    (alike : ∀ value, fits item value ↔ fits other value) :
    List.Forall₂ fits (front ++ item :: back) values ↔
      List.Forall₂ fits (front ++ other :: back) values := by
  induction front generalizing values with
  | nil => cases values <;> simp [alike]
  | cons first rest ih => cases values <;> simp [ih]

theorem exists_of_rel_some {fits : α → β → Prop} {item? : Option α} {value : β}
    (beside : Option.Rel fits item? (some value)) :
    ∃ item, item? = some item ∧ fits item value := by
  cases beside with
  | some here => exact ⟨_, rfl, here⟩

/-! ### Failures -/

variable {part : α → Except ε β}

theorem map_eq_ok_iff {outcome : Except ε α} {make : α → β} {value : β} :
    outcome.map make = .ok value ↔ ∃ held, outcome = .ok held ∧ make held = value := by
  cases outcome <;> simp [Except.map]

theorem map_eq_error_iff {outcome : Except ε α} {make : α → β} {failure : ε} :
    outcome.map make = .error failure ↔ outcome = .error failure := by
  cases outcome <;> simp [Except.map]

theorem mapM_eq_ok_iff :
    items.mapM part = .ok values ↔
      List.Forall₂ (fun item value => part item = .ok value) items values := by
  induction items generalizing values with
  | nil => cases values <;> simp [pure, Except.pure]
  | cons item rest ih =>
    rw [List.mapM_cons]
    cases found : part item with
    | error failure => cases values <;> simp [bind, Except.bind, found]
    | ok value =>
      cases values with
      | nil => cases rest.mapM part <;> simp [bind, Except.bind, pure, Except.pure]
      | cons value' values =>
        simp only [List.forall₂_cons, found, Except.ok.injEq, ← ih]
        cases rest.mapM part <;> simp [bind, Except.bind, pure, Except.pure]

theorem mapM_eq_ok_iff_map : items.mapM part = .ok values ↔ items.map part = values.map .ok := by
  rw [mapM_eq_ok_iff, ← List.forall₂_eq_eq_eq, List.forall₂_map_left_iff, List.forall₂_map_right_iff]

theorem exists_of_mapM_eq_error {failure : ε} (fails : items.mapM part = .error failure) :
    ∃ item ∈ items, part item = .error failure := by
  induction items with
  | nil => contradiction
  | cons item rest ih =>
    rw [List.mapM_cons] at fails
    cases found : part item with
    | error failure' =>
      rw [found] at fails
      cases fails
      exact ⟨item, List.mem_cons_self, found⟩
    | ok value =>
      rw [found] at fails
      cases later : rest.mapM part with
      | error failure' =>
        rw [later] at fails
        cases fails
        obtain ⟨other, member, failed⟩ := ih later
        exact ⟨other, .tail _ member, failed⟩
      | ok values =>
        rw [later] at fails
        cases fails

theorem exists_mapM_eq_error_iff :
    (∃ failure, items.mapM part = .error failure) ↔
      ∃ item ∈ items, ∃ failure, part item = .error failure := by
  constructor
  · rintro ⟨failure, fails⟩
    obtain ⟨item, member, failed⟩ := exists_of_mapM_eq_error fails
    exact ⟨item, member, failure, failed⟩
  · rintro ⟨item, member, failure, failed⟩
    cases found : items.mapM part with
    | error failure' => exact ⟨failure', rfl⟩
    | ok values =>
      obtain ⟨value, -, succeeded⟩ := exists_beside (mapM_eq_ok_iff.mp found) member
      rw [failed] at succeeded
      contradiction

end Quartermaster

import Mathlib.Data.List.Basic
import Mathlib.Data.List.Induction
import Mathlib.Data.List.Perm.Basic
import Quartermaster.Grouping

/-!
What grouping by a key comes to. `Grouped` ties groups to the items they were made of; adding one
item keeps it (`Grouped.add`), and so it holds of the groups of any list (`grouped_groupBy`).
-/

namespace Quartermaster

variable {κ α : Type} [DecidableEq κ]

/-- The distinct values of a list, in the order in which each is first seen in it. -/
structure FirstSeen (keys values : List κ) : Prop where
  mem : ∀ key, key ∈ keys ↔ key ∈ values
  ordered : keys.Pairwise fun first second => values.idxOf first < values.idxOf second

namespace FirstSeen

variable {keys values : List κ} {value : κ}

theorem nodup (seen : FirstSeen keys values) : keys.Nodup :=
  seen.ordered.imp fun earlier same => by simp [same] at earlier

theorem nil : FirstSeen ([] : List κ) [] := ⟨fun _ => Iff.rfl, List.Pairwise.nil⟩

theorem ordered_append (seen : FirstSeen keys values) (more : List κ) :
    keys.Pairwise fun first second => (values ++ more).idxOf first < (values ++ more).idxOf second := by
  refine seen.ordered.imp_of_mem fun {first second} member member' earlier => ?_
  rw [List.idxOf_append_of_mem ((seen.mem first).mp member),
    List.idxOf_append_of_mem ((seen.mem second).mp member')]
  exact earlier

theorem concat_of_mem (seen : FirstSeen keys values) (member : value ∈ values) :
    FirstSeen keys (values ++ [value]) where
  mem key := by
    rw [seen.mem key, List.mem_append, List.mem_singleton]
    constructor
    · exact .inl
    · rintro (found | rfl)
      · exact found
      · exact member
  ordered := seen.ordered_append [value]

theorem concat_of_not_mem (seen : FirstSeen keys values) (fresh : value ∉ values) :
    FirstSeen (keys ++ [value]) (values ++ [value]) where
  mem key := by simp [seen.mem key]
  ordered := by
    refine List.pairwise_append.mpr ⟨seen.ordered_append [value], List.pairwise_singleton _ _, ?_⟩
    intro first member second same
    have place := List.idxOf_lt_length_of_mem ((seen.mem first).mp member)
    rw [List.mem_singleton.mp same, List.idxOf_append_of_mem ((seen.mem first).mp member),
      List.idxOf_append_of_notMem fresh]
    omega

end FirstSeen

theorem firstSeen_eraseDups (values : List κ) : FirstSeen values.eraseDups values := by
  induction values using List.reverseRecOn with
  | nil => exact .nil
  | append_singleton earlier value ih =>
    rw [List.eraseDups_append]
    by_cases seen : value ∈ earlier
    · simpa [List.removeAll, seen] using ih.concat_of_mem seen
    · simpa [List.removeAll, seen, List.eraseDups_cons] using ih.concat_of_not_mem seen

variable {key : α → κ} {items : List α} {groups : List (Group κ α)} {group : Group κ α}

omit [DecidableEq κ] in
theorem Group.items_ne_nil (group : Group κ α) : group.items ≠ [] := List.cons_ne_nil _ _

/-! ### One item more -/

theorem keys_addToGroups (wanted : κ) (item : α) (groups : List (Group κ α)) :
    (addToGroups wanted item groups).map Group.key =
      if wanted ∈ groups.map Group.key then groups.map Group.key
      else groups.map Group.key ++ [wanted] := by
  induction groups with
  | nil => simp [addToGroups]
  | cons head rest ih =>
    by_cases same : head.key = wanted
    · simp [addToGroups, same]
    · simp only [addToGroups, if_neg same, List.map_cons, ih, List.mem_cons, Ne.symm same, false_or]
      split <;> rfl

theorem mem_addToGroups {wanted : κ} {item : α} (distinct : (groups.map Group.key).Nodup)
    (member : group ∈ addToGroups wanted item groups) :
    (group ∈ groups ∧ group.key ≠ wanted) ∨
      (∃ old ∈ groups, old.key = wanted ∧ group = old.add item) ∨
      (wanted ∉ groups.map Group.key ∧ group = ⟨wanted, item, []⟩) := by
  induction groups with
  | nil => exact .inr (.inr ⟨by simp, by simpa [addToGroups] using member⟩)
  | cons head rest ih =>
    obtain ⟨apart, distinctRest⟩ := List.nodup_cons.mp distinct
    by_cases same : head.key = wanted
    · rw [addToGroups, if_pos same] at member
      rcases List.mem_cons.mp member with added | later
      · exact .inr (.inl ⟨head, List.mem_cons_self, same, added⟩)
      · refine .inl ⟨List.mem_cons_of_mem _ later, fun equal => apart ?_⟩
        exact List.mem_map.mpr ⟨group, later, equal.trans same.symm⟩
    · rw [addToGroups, if_neg same] at member
      rcases List.mem_cons.mp member with kept | later
      · exact .inl ⟨kept ▸ List.mem_cons_self, kept ▸ same⟩
      · rcases ih distinctRest later with ⟨old, other⟩ | ⟨old, present, found, added⟩ | ⟨fresh, made⟩
        · exact .inl ⟨List.mem_cons_of_mem _ old, other⟩
        · exact .inr (.inl ⟨old, List.mem_cons_of_mem _ present, found, added⟩)
        · exact .inr (.inr ⟨by simpa [Ne.symm same] using fresh, made⟩)

theorem perm_addToGroups (wanted : κ) (item : α) (groups : List (Group κ α)) :
    ((addToGroups wanted item groups).flatMap Group.items).Perm
      (groups.flatMap Group.items ++ [item]) := by
  induction groups with
  | nil => simp [addToGroups, Group.items]
  | cons head rest ih =>
    by_cases same : head.key = wanted
    · simp only [addToGroups, if_pos same, List.flatMap_cons, Group.items_add, List.append_assoc]
      exact List.perm_append_comm.append_left _
    · simp only [addToGroups, if_neg same, List.flatMap_cons, List.append_assoc]
      exact ih.append_left _

/-! ### All items -/

/-- The groups of items: each holds all items of its key in order, and no key is left out. -/
structure Grouped (key : α → κ) (items : List α) (groups : List (Group κ α)) : Prop where
  keys : FirstSeen (groups.map Group.key) (items.map key)
  holds : ∀ group ∈ groups, group.items = items.filter fun item => key item = group.key
  perm : (groups.flatMap Group.items).Perm items

theorem Grouped.nil : Grouped key [] [] :=
  ⟨.nil, by simp, .refl _⟩

theorem Grouped.add (grouped : Grouped key items groups) (item : α) :
    Grouped key (items ++ [item]) (addToGroups (key item) item groups) where
  keys := by
    rw [keys_addToGroups, List.map_append, List.map_singleton]
    split
    · rename_i present
      exact grouped.keys.concat_of_mem ((grouped.keys.mem _).mp present)
    · rename_i absent
      exact grouped.keys.concat_of_not_mem fun found => absent ((grouped.keys.mem _).mpr found)
  holds group member := by
    rcases mem_addToGroups grouped.keys.nodup member with
      ⟨old, other⟩ | ⟨old, present, found, rfl⟩ | ⟨fresh, rfl⟩
    · rw [List.filter_append, grouped.holds group old]
      simp [Ne.symm other]
    · rw [List.filter_append, Group.items_add, grouped.holds old present]
      simp [found]
    · have unseen : key item ∉ items.map key := fun seen => fresh ((grouped.keys.mem _).mpr seen)
      have none : (items.filter fun earlier => key earlier = key item) = [] := by
        refine List.filter_eq_nil_iff.mpr fun earlier present => ?_
        simpa using fun same => unseen (List.mem_map.mpr ⟨earlier, present, same⟩)
      rw [List.filter_append, none]
      simp [Group.items]
  perm := (perm_addToGroups _ _ _).trans (grouped.perm.append_right _)

/-- Grouping by a key comes to the groups of the items. -/
theorem grouped_groupBy (key : α → κ) (items : List α) :
    Grouped key items (groupBy key items) := by
  induction items using List.reverseRecOn with
  | nil => exact .nil
  | append_singleton earlier item ih =>
    rw [groupBy_concat]
    exact ih.add item

end Quartermaster

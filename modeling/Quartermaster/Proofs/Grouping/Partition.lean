import Mathlib.Data.List.Nodup
import Quartermaster.Proofs.Grouping

/-!
Grouping by a key splits a list into its items key by key, in first-seen order
(`groupBy_partition`). The same groups come of a loop that keeps the place of each key in an index
(`indexedGroupBy_eq_groupBy`), and groups that are strung together are found again
(`groupBy_flatMap_items`).
-/

namespace Quartermaster

variable {κ α : Type} [DecidableEq κ] {key : α → κ} {items : List α} {groups : List (Group κ α)}
  {wanted : κ}

theorem FirstSeen.eq {keys keys' values : List κ} (seen : FirstSeen keys values)
    (seen' : FirstSeen keys' values) : keys = keys' := by
  have perm : keys.Perm keys' := by
    apply (List.perm_ext_iff_of_nodup seen.nodup seen'.nodup).mpr
    intro key
    exact (seen.mem key).trans (seen'.mem key).symm
  apply List.Perm.eq_of_pairwise ?_ seen.ordered seen'.ordered perm
  intro first second _ _ before after
  exact absurd before (Nat.lt_asymm after)

/-! ### Where an item goes -/

theorem addToGroups_append (item : α) (rest : List (Group κ α))
    (fresh : wanted ∉ groups.map Group.key) :
    addToGroups wanted item (groups ++ rest) = groups ++ addToGroups wanted item rest := by
  induction groups with
  | nil => rfl
  | cons head others ih =>
    obtain ⟨other, later⟩ := not_or.mp (List.mem_cons.not.mp fresh)
    rw [List.cons_append, addToGroups, if_neg (Ne.symm other), ih later]
    rfl

/-- An item of a new key makes a group behind the others. -/
theorem addToGroups_of_not_mem (item : α) (fresh : wanted ∉ groups.map Group.key) :
    addToGroups wanted item groups = groups ++ [⟨wanted, item, []⟩] := by
  simpa [addToGroups] using addToGroups_append item [] fresh

/-- An item of a known key goes to the place of its group, the only one of this key. -/
theorem addToGroups_eq_modify {place : Nat} (item : α) (distinct : (groups.map Group.key).Nodup)
    (found : (groups.map Group.key)[place]? = some wanted) :
    addToGroups wanted item groups = groups.modify place (·.add item) := by
  induction groups generalizing place with
  | nil => simp at found
  | cons head rest ih =>
    obtain ⟨apart, distinctRest⟩ := List.nodup_cons.mp distinct
    cases place with
    | zero =>
      have same : head.key = wanted := by simpa using found
      rw [addToGroups, if_pos same]
      rfl
    | succ place =>
      have later : (rest.map Group.key)[place]? = some wanted := found
      have other : head.key ≠ wanted := fun same => apart (same ▸ List.mem_of_getElem? later)
      rw [addToGroups, if_neg other, ih distinctRest later]
      rfl

/-! ### With an index -/

/-- Groups, with the place of the group of each key. -/
structure IndexedGroups (κ α : Type) where
  places : List (κ × Nat)
  groups : List (Group κ α)

namespace IndexedGroups

/-- Adds an item at the place that the index knows, or behind the others at a place of its own. -/
def add (state : IndexedGroups κ α) (key : κ) (item : α) : IndexedGroups κ α :=
  match state.places.lookup key with
  | some place => { state with groups := state.groups.modify place (·.add item) }
  | none =>
    { places := (key, state.groups.length) :: state.places
      groups := state.groups ++ [⟨key, item, []⟩] }

/-- The index knows of every key the one place where its group stands, and no other keys. -/
structure Sound (state : IndexedGroups κ α) : Prop where
  distinct : (state.groups.map Group.key).Nodup
  places : ∀ key place, state.places.lookup key = some place ↔
    (state.groups.map Group.key)[place]? = some key

namespace Sound

variable {state : IndexedGroups κ α}

theorem empty : Sound (⟨[], []⟩ : IndexedGroups κ α) := ⟨List.nodup_nil, by simp⟩

theorem not_mem (sound : Sound state) (unknown : state.places.lookup wanted = none) :
    wanted ∉ state.groups.map Group.key := by
  intro present
  obtain ⟨place, here⟩ := List.mem_iff_getElem?.mp present
  rw [(sound.places wanted place).mpr here] at unknown
  cases unknown

theorem groups_add (sound : Sound state) (wanted : κ) (item : α) :
    (state.add wanted item).groups = addToGroups wanted item state.groups := by
  unfold IndexedGroups.add
  cases known : state.places.lookup wanted with
  | some place =>
    exact (addToGroups_eq_modify item sound.distinct ((sound.places wanted place).mp known)).symm
  | none => exact (addToGroups_of_not_mem item (sound.not_mem known)).symm

theorem add (sound : Sound state) (wanted : κ) (item : α) : Sound (state.add wanted item) := by
  cases known : state.places.lookup wanted with
  | some place =>
    -- neither the keys nor the index change
    have present := List.mem_of_getElem? ((sound.places wanted place).mp known)
    have keys : (state.add wanted item).groups.map Group.key = state.groups.map Group.key := by
      rw [sound.groups_add, keys_addToGroups, if_pos present]
    have places : (state.add wanted item).places = state.places := by
      simp only [IndexedGroups.add, known]
    constructor
    · rw [keys]
      exact sound.distinct
    · rw [keys, places]
      exact sound.places
  | none =>
    -- the key goes behind all others, and into the index with this place
    have fresh := sound.not_mem known
    have keys : (state.add wanted item).groups.map Group.key =
        state.groups.map Group.key ++ [wanted] := by
      rw [sound.groups_add, keys_addToGroups, if_neg fresh]
    have places : (state.add wanted item).places =
        (wanted, (state.groups.map Group.key).length) :: state.places := by
      simp only [IndexedGroups.add, known, List.length_map]
    constructor
    · rw [keys, ← List.concat_eq_append]
      exact sound.distinct.concat fresh
    · intro key place
      rw [keys, places, List.getElem?_append]
      by_cases same : key = wanted
      · subst same
        have unheld : (state.groups.map Group.key)[place]? ≠ some key := fun held =>
          fresh (List.mem_of_getElem? held)
        grind
      · have apart := sound.places key place
        grind

end Sound

end IndexedGroups

def indexedGroupBy (key : α → κ) (items : List α) : IndexedGroups κ α :=
  items.foldl (fun state item => state.add (key item) item) ⟨[], []⟩

/-- The index makes no difference: after any items it is sound, and the groups are the same. -/
theorem indexedGroupBy_eq_groupBy (key : α → κ) (items : List α) :
    (indexedGroupBy key items).Sound ∧ (indexedGroupBy key items).groups = groupBy key items := by
  induction items using List.reverseRecOn with
  | nil => exact ⟨.empty, rfl⟩
  | append_singleton earlier item ih =>
    obtain ⟨sound, same⟩ := ih
    have step : indexedGroupBy key (earlier ++ [item]) =
        (indexedGroupBy key earlier).add (key item) item := by
      simp [indexedGroupBy]
    rw [step, groupBy_concat, ← same]
    exact ⟨sound.add _ _, sound.groups_add _ _⟩

/-! ### Grouping again -/

theorem foldl_addToGroups_last (first : α) (held : List α) {more : List α}
    (fresh : wanted ∉ groups.map Group.key) (own : ∀ item ∈ more, key item = wanted) :
    more.foldl (fun groups item => addToGroups (key item) item groups)
        (groups ++ [⟨wanted, first, held⟩]) =
      groups ++ [⟨wanted, first, held ++ more⟩] := by
  induction more generalizing held with
  | nil => simp
  | cons item rest ih =>
    have here : key item = wanted := own item List.mem_cons_self
    have step : addToGroups wanted item (groups ++ [⟨wanted, first, held⟩]) =
        groups ++ [⟨wanted, first, held ++ [item]⟩] := by
      rw [addToGroups_append item _ fresh]
      simp [addToGroups, Group.add]
    rw [List.foldl_cons, here, step, ih _ fun item member => own item (.tail _ member)]
    simp

theorem groupBy_append_items {group : Group κ α}
    (fresh : group.key ∉ (groupBy key items).map Group.key)
    (own : ∀ item ∈ group.items, key item = group.key) :
    groupBy key (items ++ group.items) = groupBy key items ++ [group] := by
  have here : key group.first = group.key := own _ List.mem_cons_self
  have made : groupBy key (items ++ [group.first]) =
      groupBy key items ++ [⟨group.key, group.first, []⟩] := by
    rw [groupBy_concat, here, addToGroups_of_not_mem _ fresh]
  have filled := foldl_addToGroups_last group.first [] fresh
    fun item member => own item (List.mem_cons_of_mem _ member)
  rw [← made] at filled
  simpa [groupBy, Group.items] using filled

/-- Groups of different keys come out as they are when their items are grouped. -/
theorem groupBy_flatMap_of_own (distinct : (groups.map Group.key).Nodup)
    (own : ∀ group ∈ groups, ∀ item ∈ group.items, key item = group.key) :
    groupBy key (groups.flatMap Group.items) = groups := by
  induction groups using List.reverseRecOn with
  | nil => rfl
  | append_singleton earlier last ih =>
    rw [List.map_append, List.nodup_append] at distinct
    obtain ⟨distinctEarlier, -, apart⟩ := distinct
    have sofar : groupBy key (earlier.flatMap Group.items) = earlier :=
      ih distinctEarlier fun group member => own group (List.mem_append_left _ member)
    have fresh : last.key ∉ (groupBy key (earlier.flatMap Group.items)).map Group.key := by
      rw [sofar]
      intro present
      exact apart last.key present last.key (by simp) rfl
    have whole := groupBy_append_items fresh (own last List.mem_concat_self)
    rw [sofar] at whole
    simpa using whole

theorem groupBy_flatMap_items (key : α → κ) (items : List α) :
    groupBy key ((groupBy key items).flatMap Group.items) = groupBy key items := by
  have grouped := grouped_groupBy key items
  apply groupBy_flatMap_of_own grouped.keys.nodup
  intro group member item held
  rw [grouped.holds group member] at held
  simpa using (List.mem_filter.mp held).2

/--
Grouping by a key is the partition of a list in first-seen order, also when the groups are found by
an index: keys are distinct and stand where they are first seen, a group holds the items of its key
in order and is never empty, the groups together hold every item as often as it occurs, and grouping
them again gives them back.
-/
theorem groupBy_partition (key : α → κ) (items : List α) :
    let groups := groupBy key items
    (indexedGroupBy key items).groups = groups ∧
    groups.map Group.key = (items.map key).eraseDups ∧
    (groups.map Group.key).Nodup ∧
    FirstSeen (groups.map Group.key) (items.map key) ∧
    (∀ group ∈ groups, group.items ≠ [] ∧
      group.items = items.filter fun item => key item = group.key) ∧
    (groups.flatMap Group.items).Perm items ∧
    groupBy key (groups.flatMap Group.items) = groups := by
  intro groups
  have grouped : Grouped key items groups := grouped_groupBy key items
  have keys : groups.map Group.key = (items.map key).eraseDups :=
    grouped.keys.eq (firstSeen_eraseDups _)
  have held : ∀ group ∈ groups, group.items ≠ [] ∧
      group.items = items.filter fun item => key item = group.key := by
    intro group member
    exact ⟨group.items_ne_nil, grouped.holds group member⟩
  exact ⟨(indexedGroupBy_eq_groupBy key items).2, keys, grouped.keys.nodup, grouped.keys, held,
    grouped.perm, groupBy_flatMap_items key items⟩

end Quartermaster

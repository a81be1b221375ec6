import Mathlib.Data.List.Induction
import Mathlib.Data.List.Sort
import Quartermaster.Table

/-!
What the table of a list of entries holds: their keys, and under each key the value of the last
entry that has it. A table does not tell in which order its keys came.
-/

namespace Quartermaster

variable {κ α β : Type}

/-! ### The last item with a key -/

/-- An item is the last one of a list that has a key. -/
inductive LastUnder (key : α → κ) (wanted : κ) : List α → α → Prop
  | found (same : key item = wanted) : LastUnder key wanted (items ++ [item]) item
  | past (other : key more ≠ wanted) (last : LastUnder key wanted items item) :
    LastUnder key wanted (items ++ [more]) item

namespace LastUnder

variable {key : α → κ} {wanted : κ} {items : List α} {item : α}

theorem key_eq (last : LastUnder key wanted items item) : key item = wanted := by
  induction last with
  | found same => exact same
  | past other last ih => exact ih

theorem split (last : LastUnder key wanted items item) :
    ∃ before after, items = before ++ item :: after ∧ ∀ later ∈ after, key later ≠ wanted := by
  induction last with
  | @found item items same => exact ⟨items, [], rfl, by simp⟩
  | @past more items item other last ih =>
    obtain ⟨before, after, rfl, apart⟩ := ih
    refine ⟨before, after ++ [more], by simp, fun later member => ?_⟩
    rcases List.mem_append.mp member with earlier | atEnd
    · exact apart later earlier
    · exact List.mem_singleton.mp atEnd ▸ other

theorem mem (last : LastUnder key wanted items item) : item ∈ items := by
  obtain ⟨before, after, rfl, -⟩ := last.split
  simp

theorem mem_right {earlier later : List α}
    (last : LastUnder key wanted (earlier ++ later) item) (present : wanted ∈ later.map key) :
    item ∈ later := by
  obtain ⟨before, after, whole, apart⟩ := last.split
  obtain ⟨other, among, same⟩ := List.mem_map.mp present
  rcases List.append_eq_append_iff.mp whole with ⟨more, -, rfl⟩ | ⟨more, -, rest⟩
  · simp
  · cases more with
    | nil =>
      rw [List.nil_append] at rest
      exact rest ▸ List.mem_cons_self
    | cons first more =>
      obtain ⟨-, rfl⟩ := List.cons.inj rest
      exact absurd same (apart other (List.mem_append_right _ among))

theorem exists_of_mem [DecidableEq κ] (present : wanted ∈ items.map key) :
    ∃ item, LastUnder key wanted items item := by
  induction items using List.reverseRecOn with
  | nil => simp at present
  | append_singleton earlier more ih =>
    by_cases same : key more = wanted
    · exact ⟨more, .found same⟩
    · have seen : wanted ∈ earlier.map key := by simpa [Ne.symm same] using present
      obtain ⟨item, last⟩ := ih seen
      exact ⟨item, .past same last⟩

end LastUnder

namespace Table

/-! ### Keys -/

theorem pairwise_keys (table : Table α) : table.keys.Pairwise (· < ·) :=
  List.pairwise_map.mpr table.increasing

/-- Tables with the same keys have them in the same order. -/
theorem keys_eq_of_mem_iff {first : Table α} {second : Table β}
    (same : ∀ key, key ∈ first.keys ↔ key ∈ second.keys) : first.keys = second.keys :=
  first.pairwise_keys.eq_of_mem_iff second.pairwise_keys fun {key} => same key

theorem mem_keys_insertEntry (key : String) (value : α) (wanted : String)
    (entries : List (String × α)) :
    wanted ∈ (insertEntry key value entries).map (·.1) ↔
      wanted = key ∨ wanted ∈ entries.map (·.1) := by
  induction entries with
  | nil => simp [insertEntry]
  | cons head rest ih =>
    obtain ⟨other, held⟩ := head
    simp only [insertEntry]
    split
    · simp
    · rename_i notBelow
      split
      · simp only [List.map_cons, List.mem_cons, ih]
        exact or_left_comm
      · rename_i notAbove
        simp [key_eq_of_not_lt notBelow notAbove]

theorem ofEntries_concat (entries : List (String × α)) (key : String) (value : α) :
    ofEntries (entries ++ [(key, value)]) = (ofEntries entries).insert key value := by
  simp [ofEntries, insert, sortEntries]

theorem mem_keys_ofEntries (entries : List (String × α)) (wanted : String) :
    wanted ∈ (ofEntries entries).keys ↔ wanted ∈ entries.map (·.1) := by
  induction entries using List.reverseRecOn with
  | nil => rfl
  | append_singleton earlier entry ih =>
    rw [ofEntries_concat]
    refine (mem_keys_insertEntry entry.1 entry.2 wanted _).trans ?_
    rw [List.map_append, List.mem_append, or_comm, ← ih]
    simp [keys]

/-! ### Values -/

/-- Under a key stands what the last item with this key has to put there. -/
theorem get?_ofEntries {key : α → String} {wanted : String} {items : List α} {item : α}
    (last : LastUnder key wanted items item) (value : α → β) :
    (ofEntries (items.map fun item => (key item, value item))).get? wanted =
      some (value item) := by
  induction last with
  | found same => simp [ofEntries_concat, get?_insert, same]
  | past other last ih => simpa [ofEntries_concat, get?_insert, Ne.symm other] using ih

/-- A table holds nothing else under a key. -/
theorem get?_ofEntries_iff {key : α → String} {wanted : String} {items : List α} {value : α → β}
    {held : β} :
    (ofEntries (items.map fun item => (key item, value item))).get? wanted = some held ↔
      ∃ item, LastUnder key wanted items item ∧ held = value item := by
  constructor
  · intro found
    induction items using List.reverseRecOn with
    | nil => cases found
    | append_singleton earlier more ih =>
      rw [List.map_append, List.map_singleton, ofEntries_concat, get?_insert] at found
      by_cases same : wanted = key more
      · rw [if_pos same] at found
        exact ⟨more, .found same.symm, (Option.some.inj found).symm⟩
      · rw [if_neg same] at found
        obtain ⟨item, last, value⟩ := ih found
        exact ⟨item, .past (Ne.symm same) last, value⟩
  · rintro ⟨item, last, rfl⟩
    exact get?_ofEntries last value

def valuesUnder (key : String) (entries : List (String × α)) : List α :=
  entries.filterMap fun entry => if entry.1 = key then some entry.2 else none

theorem valuesUnder_cons (key : String) (entry : String × α) (rest : List (String × α)) :
    valuesUnder key (entry :: rest) =
      if entry.1 = key then entry.2 :: valuesUnder key rest else valuesUnder key rest := by
  simp only [valuesUnder, List.filterMap_cons]
  split <;> split at * <;> simp_all

theorem valuesUnder_append (key : String) (front back : List (String × α)) :
    valuesUnder key (front ++ back) = valuesUnder key front ++ valuesUnder key back :=
  List.filterMap_append

theorem valuesUnder_map (key : String) (value : α → β) (entries : List (String × α)) :
    valuesUnder key (entries.map fun entry => (entry.1, value entry.2)) =
      (valuesUnder key entries).map value := by
  induction entries with
  | nil => rfl
  | cons entry rest ih =>
    rw [List.map_cons, valuesUnder_cons, valuesUnder_cons, ih]
    split <;> rfl

theorem valuesUnder_eq_nil {key : String} {entries : List (String × α)}
    (absent : key ∉ entries.map (·.1)) : valuesUnder key entries = [] := by
  refine List.filterMap_eq_nil_iff.mpr fun entry member => if_neg fun same => ?_
  exact absent (List.mem_map.mpr ⟨entry, member, same⟩)

theorem get?_ofEntries_eq (entries : List (String × α)) (key : String) :
    (ofEntries entries).get? key = (valuesUnder key entries).getLast? := by
  induction entries using List.reverseRecOn with
  | nil => rfl
  | append_singleton earlier entry ih =>
    rw [ofEntries_concat, get?_insert, valuesUnder_append, ih]
    by_cases same : entry.1 = key
    · simp [valuesUnder, same]
    · simp [valuesUnder, same, Ne.symm same]

theorem get?_ofEntries_map (value : α → β) (entries : List (String × α)) (key : String) :
    (ofEntries (entries.map fun entry => (entry.1, value entry.2))).get? key =
      ((ofEntries entries).get? key).map value := by
  rw [get?_ofEntries_eq, get?_ofEntries_eq, valuesUnder_map, List.getLast?_map]

theorem mem_entries_iff {table : Table α} {key : String} {value : α} :
    (key, value) ∈ table.entries ↔ table.get? key = some value := by
  rw [get?, List.lookup_eq_some_iff]
  constructor
  · intro member
    obtain ⟨before, after, whole⟩ := List.append_of_mem member
    refine ⟨before, after, whole, fun earlier among => bne_iff_ne.mpr fun same => ?_⟩
    have increasing := table.increasing
    rw [whole] at increasing
    have below : earlier.1 < key :=
      (List.pairwise_append.mp increasing).2.2 earlier among _ List.mem_cons_self
    exact String.lt_irrefl key (same ▸ below)
  · rintro ⟨before, after, whole, -⟩
    rw [whole]
    simp

theorem valuesUnder_entries (table : Table α) (key : String) :
    valuesUnder key table.entries = (table.get? key).toList := by
  obtain ⟨entries, increasing⟩ := table
  change _ = (entries.lookup key).toList
  induction entries with
  | nil => rfl
  | cons entry rest ih =>
    obtain ⟨below, others⟩ := List.pairwise_cons.mp increasing
    rw [lookup_cons_eq]
    by_cases same : key = entry.1
    · subst same
      have nowhere : entry.1 ∉ rest.map (·.1) := by
        intro member
        obtain ⟨later, among, same⟩ := List.mem_map.mp member
        exact String.lt_irrefl entry.1 (same ▸ below later among)
      simp [valuesUnder_cons, valuesUnder_eq_nil nowhere]
    · rw [if_neg same, ← ih others]
      simp [valuesUnder_cons, Ne.symm same]

/-! ### Entries in order -/

theorem mem_of_mem_sortEntries {entries : List (String × α)} {entry : String × α}
    (member : entry ∈ sortEntries entries) : entry ∈ entries := by
  induction entries using List.reverseRecOn with
  | nil => cases member
  | append_singleton earlier last ih =>
    simp only [sortEntries, List.foldl_append, List.foldl_cons, List.foldl_nil] at member ih
    rcases mem_insertEntry member with rfl | before
    · simp
    · exact List.mem_append_left _ (ih before)

theorem insertEntry_of_above {key : String} (value : α) {entries : List (String × α)}
    (above : ∀ entry ∈ entries, entry.1 < key) :
    insertEntry key value entries = entries ++ [(key, value)] := by
  induction entries with
  | nil => rfl
  | cons head rest ih =>
    have below := above head (by simp)
    have later := ih fun entry member => above entry (List.mem_cons_of_mem _ member)
    simp only [insertEntry]
    rw [if_neg (String.lt_asymm below), if_pos below, later]
    rfl

theorem sortEntries_of_increasing {entries : List (String × α)} (increasing : Increasing entries) :
    sortEntries entries = entries := by
  induction entries using List.reverseRecOn with
  | nil => rfl
  | append_singleton earlier entry ih =>
    obtain ⟨before, -, above⟩ := List.pairwise_append.mp increasing
    have last : ∀ other ∈ earlier, other.1 < entry.1 := fun other member =>
      above other member entry (by simp)
    have sorted := ih before
    simp only [sortEntries, List.foldl_append, List.foldl_cons, List.foldl_nil] at sorted ⊢
    rw [sorted, insertEntry_of_above entry.2 last]

theorem ofEntries_entries (table : Table α) : ofEntries table.entries = table := by
  cases table with
  | mk entries increasing => simp only [ofEntries, sortEntries_of_increasing increasing]

end Table

end Quartermaster

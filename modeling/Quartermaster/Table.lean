/-!
Tables with texts as keys. The entries are held in increasing order of their keys, so a key occurs
once and two tables with the same entries are equal. Inserting under a key that is there already
replaces the value (`get?_insert`).
-/

namespace Quartermaster

/-- Puts an entry at its place in a list of entries, in the place of one with the same key. -/
def insertEntry (key : String) (value : α) : List (String × α) → List (String × α)
  | [] => [(key, value)]
  | (other, held) :: rest =>
    if key < other then (key, value) :: (other, held) :: rest
    else if other < key then (other, held) :: insertEntry key value rest
    else (key, value) :: rest

/-- The entries of a list in increasing order of keys, the last one of a repeated key. -/
def sortEntries (entries : List (String × α)) : List (String × α) :=
  entries.foldl (fun sorted entry => insertEntry entry.1 entry.2 sorted) []

def Increasing (entries : List (String × α)) : Prop :=
  entries.Pairwise fun first second => first.1 < second.1

theorem mem_insertEntry {key : String} {value : α} {entries : List (String × α)}
    {entry : String × α} (member : entry ∈ insertEntry key value entries) :
    entry = (key, value) ∨ entry ∈ entries := by
  induction entries with
  | nil => simpa [insertEntry] using member
  | cons head rest ih =>
    obtain ⟨other, held⟩ := head
    simp only [insertEntry] at member
    split at member
    · simpa using member
    · split at member
      · rcases List.mem_cons.1 member with same | later
        · exact .inr (by simp [same])
        · exact (ih later).imp id (List.mem_cons_of_mem _)
      · exact (List.mem_cons.1 member).imp id (List.mem_cons_of_mem _)

theorem key_eq_of_not_lt {first second : String} (notBelow : ¬first < second)
    (notAbove : ¬second < first) : first = second :=
  String.le_antisymm (String.not_lt.1 notAbove) (String.not_lt.1 notBelow)

theorem increasing_insertEntry (key : String) (value : α) {entries : List (String × α)}
    (sorted : Increasing entries) : Increasing (insertEntry key value entries) := by
  induction entries with
  | nil => simp [insertEntry, Increasing]
  | cons head rest ih =>
    obtain ⟨other, held⟩ := head
    obtain ⟨first, others⟩ := List.pairwise_cons.1 sorted
    simp only [insertEntry]
    split
    · rename_i below
      refine List.pairwise_cons.2 ⟨fun entry member => ?_, sorted⟩
      rcases List.mem_cons.1 member with same | later
      · simpa [same] using below
      · exact String.lt_trans below (first entry later)
    · rename_i notBelow
      split
      · rename_i above
        refine List.pairwise_cons.2 ⟨fun entry member => ?_, ih others⟩
        rcases mem_insertEntry member with same | later
        · simpa [same] using above
        · exact first entry later
      · rename_i notAbove
        have same := key_eq_of_not_lt notBelow notAbove
        exact List.pairwise_cons.2 ⟨fun entry later => same ▸ first entry later, others⟩

theorem increasing_sortEntries (entries : List (String × α)) :
    Increasing (sortEntries entries) := by
  suffices general : ∀ sorted : List (String × α), Increasing sorted →
      Increasing (entries.foldl (fun sorted entry => insertEntry entry.1 entry.2 sorted) sorted) by
    exact general [] List.Pairwise.nil
  induction entries with
  | nil => exact fun _ sorted => sorted
  | cons entry rest ih => exact fun sorted h => ih _ (increasing_insertEntry _ _ h)

structure Table (α : Type u) where
  entries : List (String × α)
  increasing : Increasing entries
  deriving DecidableEq

namespace Table

def empty : Table α := ⟨[], List.Pairwise.nil⟩

instance : Inhabited (Table α) := ⟨empty⟩

def insert (table : Table α) (key : String) (value : α) : Table α :=
  ⟨insertEntry key value table.entries, increasing_insertEntry key value table.increasing⟩

def get? (table : Table α) (key : String) : Option α :=
  table.entries.lookup key

def keys (table : Table α) : List String := table.entries.map (·.1)

/-- The table of a list of entries; of entries with the same key the last one counts. -/
def ofEntries (entries : List (String × α)) : Table α :=
  ⟨sortEntries entries, increasing_sortEntries entries⟩

theorem lookup_cons_eq (key : String) (value : α) (rest : List (String × α)) (wanted : String) :
    ((key, value) :: rest).lookup wanted =
      if wanted = key then some value else rest.lookup wanted := by
  by_cases same : wanted = key
  · simp [same]
  · simp [List.lookup_cons, same, beq_eq_false_iff_ne.2 same]

theorem lookup_insertEntry (key : String) (value : α) (wanted : String)
    {entries : List (String × α)} (sorted : Increasing entries) :
    (insertEntry key value entries).lookup wanted =
      if wanted = key then some value else entries.lookup wanted := by
  induction entries with
  | nil => simp [insertEntry, lookup_cons_eq]
  | cons head rest ih =>
    obtain ⟨other, held⟩ := head
    obtain ⟨_, others⟩ := List.pairwise_cons.1 sorted
    simp only [insertEntry]
    split
    · rw [lookup_cons_eq]
    · rename_i notBelow
      split
      · rename_i above
        rw [lookup_cons_eq, lookup_cons_eq, ih others]
        by_cases same : wanted = key
        · have differs : key ≠ other := fun equal => String.lt_irrefl other (equal ▸ above)
          simp [same, differs]
        · simp [same]
      · rename_i notAbove
        have equal := key_eq_of_not_lt notBelow notAbove
        rw [lookup_cons_eq, lookup_cons_eq, equal]
        by_cases same : wanted = other <;> simp [same]

theorem get?_insert (table : Table α) (key : String) (value : α) (wanted : String) :
    (table.insert key value).get? wanted = if wanted = key then some value else table.get? wanted :=
  lookup_insertEntry key value wanted table.increasing

end Table

end Quartermaster

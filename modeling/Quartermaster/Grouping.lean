/-!
Grouping by a key. Groups stand in the order in which their keys were first seen, and the items of
a group in the order in which they came.
-/

namespace Quartermaster

/-- The items with one key, of which there is at least one. -/
structure Group (κ α : Type) where
  key : κ
  first : α
  others : List α
  deriving DecidableEq, Repr

namespace Group

def items (group : Group κ α) : List α := group.first :: group.others

def add (group : Group κ α) (item : α) : Group κ α :=
  { group with others := group.others ++ [item] }

@[simp] theorem key_add (group : Group κ α) (item : α) : (group.add item).key = group.key := rfl

@[simp] theorem items_add (group : Group κ α) (item : α) :
    (group.add item).items = group.items ++ [item] := rfl

end Group

/-- Adds an item to the group of its key, or as a group of its own behind the others. -/
def addToGroups [DecidableEq κ] (key : κ) (item : α) : List (Group κ α) → List (Group κ α)
  | [] => [⟨key, item, []⟩]
  | group :: rest =>
    if group.key = key then group.add item :: rest
    else group :: addToGroups key item rest

def groupBy [DecidableEq κ] (key : α → κ) (items : List α) : List (Group κ α) :=
  items.foldl (fun groups item => addToGroups (key item) item groups) []

/-- A last item goes to the groups of those before it. -/
theorem groupBy_concat [DecidableEq κ] (key : α → κ) (items : List α) (item : α) :
    groupBy key (items ++ [item]) = addToGroups (key item) item (groupBy key items) := by
  simp [groupBy]

end Quartermaster

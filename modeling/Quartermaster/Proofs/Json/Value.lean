import Quartermaster.Proofs.Json.Codec

/-!
Free-form values read back from their documents. A value that was read has its members in order,
and its integers fit, so it is read back as it is if it holds no real number: a real number is
written with as few digits as tell it from others, and is not always read back from these.
-/

namespace Quartermaster.Json.Value

def IsReadAs (depth : Nat) (document : Json) (value : Value) : Prop :=
  read depth document = .ok value

/-! ### Containers item by item -/

theorem readItems_eq_mapM (depth : Nat) (items : List Json) :
    read.readItems depth items = items.mapM (read depth) := by
  induction items with
  | nil => rfl
  | cons item rest ih => rw [read.readItems, ih, List.mapM_cons]

theorem readMembers_eq_mapM (depth : Nat) (members : List Member) :
    read.readMembers depth members = members.mapM (Codec.readEntry Codec.value depth) := by
  induction members with
  | nil => rfl
  | cons member rest ih =>
    obtain ⟨_ | name, document⟩ := member
    · rw [read.readMembers, List.mapM_cons]
      rfl
    · rw [read.readMembers, ih, List.mapM_cons]
      simp only [Codec.readEntry, Codec.value]
      cases read depth document <;> rfl

theorem writeItems_eq_map (items : List Value) : write.writeItems items = items.map write := by
  induction items with
  | nil => rfl
  | cons item rest ih => rw [write.writeItems, ih, List.map_cons]

theorem writeMembers_eq_map (members : List (String × Value)) :
    write.writeMembers members = members.map fun member => (some member.1, member.2.write) := by
  induction members with
  | nil => rfl
  | cons member rest ih => rw [write.writeMembers, ih, List.map_cons]

/-! ### Reading back -/

inductive Whole : Value → Prop
  | null : Whole .null
  | bool (value : Bool) : Whole (.bool value)
  | integer (value : Int) : Whole (.integer value)
  | string (text : String) : Whole (.string text)
  | array {items : List Value} (each : ∀ item ∈ items, Whole item) : Whole (.array items)
  | object {members : List (String × Value)} (each : ∀ member ∈ members, Whole member.2) :
    Whole (.object members)

theorem read_write_integer {literal : Numeral} {i : Int} (found : literal.integer? = some i)
    (depth : Nat) : read depth (.ofInt i) = .ok (.integer i) := by
  have bounds : Int64.minValue.toInt ≤ i ∧ i < UInt64.size := by
    have within := (Option.filter_eq_some_iff.mp found).2
    simpa using within
  simp only [ofInt, read, ofNumeral?, integer?_ofInt bounds.1 bounds.2]

theorem read_array_iff {items : List Json} {value : Value} {depth : Nat} :
    read depth (.array items) = .ok value ↔ ∃ inside values, depth = inside + 1 ∧
      List.Forall₂ (fun item value => read inside item = .ok value) items values ∧
        .array values = value := by
  cases depth with
  | zero => simp [read]
  | succ inside => simp [read, readItems_eq_mapM, map_eq_ok_iff, mapM_eq_ok_iff]

theorem read_object_iff {members : List Member} {value : Value} {depth : Nat} :
    read depth (.object members) = .ok value ↔ ∃ inside entries, depth = inside + 1 ∧
      List.Forall₂ (fun member entry => member.1 = some entry.1 ∧
          read inside member.2 = .ok entry.2) members entries ∧
        .object (sortEntries entries) = value := by
  cases depth with
  | zero => simp [read]
  | succ inside =>
    simp [read, readMembers_eq_mapM, map_eq_ok_iff, mapM_eq_ok_iff, Codec.readEntry_eq_ok_iff,
      Codec.value]

/-- A value without real numbers that was read is read back as it is. -/
theorem read_write {document : Json} {value : Value} {depth : Nat}
    (isRead : read depth document = .ok value) (whole : value.Whole) :
    read depth value.write = .ok value := by
  induction document using Json.induction generalizing depth value with
  | null =>
    cases isRead
    rfl
  | bool value =>
    cases isRead
    rfl
  | number literal =>
    simp only [read, ofNumeral?] at isRead
    cases found : literal.integer? with
    | some i =>
      rw [found] at isRead
      cases isRead
      exact read_write_integer found depth
    | none =>
      rw [found] at isRead
      cases real : literal.real? with
      | none =>
        rw [real] at isRead
        contradiction
      | some x =>
        rw [real] at isRead
        cases isRead
        cases whole
  | string text =>
    cases text with
    | none => contradiction
    | some text =>
      cases isRead
      rfl
  | array items ih =>
    obtain ⟨inside, values, rfl, each, rfl⟩ := read_array_iff.mp isRead
    cases whole with
    | array whole =>
      rw [write, writeItems_eq_map, read_array_iff]
      refine ⟨inside, values, rfl, ?_, rfl⟩
      rw [List.forall₂_map_left_iff, List.forall₂_same]
      intro value present
      obtain ⟨item, member, read⟩ := exists_beside each.flip present
      exact ih item member read (whole value present)
  | object members ih =>
    obtain ⟨inside, entries, rfl, each, rfl⟩ := read_object_iff.mp isRead
    cases whole with
    | object whole =>
      rw [write, writeMembers_eq_map, read_object_iff]
      refine ⟨inside, sortEntries entries, rfl, ?_, ?_⟩
      · rw [List.forall₂_map_left_iff, List.forall₂_same]
        intro entry present
        obtain ⟨member, among, -, read⟩ :=
          exists_beside each.flip (Table.mem_of_mem_sortEntries present)
        exact ⟨rfl, ih member among read (whole entry present)⟩
      · -- written in order already, so reading them back leaves them in place
        rw [Table.sortEntries_of_increasing (increasing_sortEntries entries)]

end Quartermaster.Json.Value

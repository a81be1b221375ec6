import Mathlib.Data.List.Basic
import Quartermaster.Proofs.Each
import Quartermaster.Proofs.Json.Text
import Quartermaster.Proofs.Table

/-!
Codecs that read back what they wrote (`Codec.Exact`). The property passes from the codec of items
to those of lists, pairs and tables of them, so that it is found for codecs put together from
these. A codec with an exact part for each value that may be absent never takes the value for null.
-/

namespace Quartermaster.Json

/-! ### Nesting -/

theorem nesting_le_nestingItems {items : List Json} {item : Json} (member : item ∈ items) :
    item.nesting ≤ nesting.nestingItems items := by
  induction items with
  | nil => contradiction
  | cons head rest ih =>
    simp only [nesting.nestingItems]
    rcases List.mem_cons.mp member with rfl | later
    · exact Nat.le_max_left ..
    · exact Nat.le_trans (ih later) (Nat.le_max_right ..)

theorem nesting_le_nestingMembers {members : List Member} {member : Member}
    (present : member ∈ members) : member.2.nesting ≤ nesting.nestingMembers members := by
  induction members with
  | nil => contradiction
  | cons head rest ih =>
    simp only [nesting.nestingMembers]
    rcases List.mem_cons.mp present with rfl | later
    · exact Nat.le_max_left ..
    · exact Nat.le_trans (ih later) (Nat.le_max_right ..)

theorem exists_depth_of_array {items : List Json} {depth : Nat}
    (fits : (Json.array items).nesting ≤ depth) :
    ∃ inside, depth = inside + 1 ∧ ∀ item ∈ items, item.nesting ≤ inside := by
  cases depth with
  | zero => simp [nesting] at fits
  | succ inside =>
    refine ⟨inside, rfl, fun item member => ?_⟩
    have below := nesting_le_nestingItems member
    simp only [nesting] at fits
    omega

theorem exists_depth_of_members {entries : List (String × Json)} {depth : Nat}
    (fits : (ofMembers entries).nesting ≤ depth) :
    ∃ inside, depth = inside + 1 ∧ ∀ entry ∈ entries, entry.2.nesting ≤ inside := by
  cases depth with
  | zero => simp [nesting, ofMembers] at fits
  | succ inside =>
    refine ⟨inside, rfl, fun entry member => ?_⟩
    have present : (some entry.1, entry.2) ∈ entries.map fun entry => (some entry.1, entry.2) :=
      List.mem_map.mpr ⟨entry, member, rfl⟩
    have below := nesting_le_nestingMembers present
    exact Nat.le_trans below (Nat.le_of_succ_le_succ fits)

/-! ### Codecs -/

theorem integer?_ofInt {i : Int} (low : Int64.minValue.toInt ≤ i) (high : i < UInt64.size) :
    (Numeral.ofInt i).integer? = some i := by
  have plain : (Numeral.ofInt i).plainInteger? = some i := by
    unfold Numeral.ofInt
    generalize absolute : i.natAbs = size
    by_cases negative : i < 0
    · simp [Numeral.plainInteger?, negative]
      omega
    · simp [Numeral.plainInteger?, negative]
      omega
  rw [Numeral.integer?, plain, Option.filter_some, if_pos]
  simpa using ⟨low, high⟩

theorem integer?_ofInt_toInt (value : Int64) :
    (Numeral.ofInt value.toInt).integer? = some value.toInt := by
  have low := value.minValue_le_toInt
  have high := value.toInt_lt
  exact integer?_ofInt low (by simp [UInt64.size] at *; omega)

namespace Codec

variable {α β : Type} {codec : Codec α}

/-- Reads a value back from its document, where so many containers may be open. -/
def Recovers (codec : Codec α) (depth : Nat) (value : α) : Prop :=
  codec.read depth (codec.write value) = .ok value

/-- Reads back what it wrote, and never writes null, which stands for no value. -/
class Exact (codec : Codec α) : Prop where
  faithful : codec.Faithful
  definite : ∀ value, codec.write value ≠ .null

theorem recovers_of_fits [exact : codec.Exact] {value : α} {depth : Nat}
    (fits : (codec.write value).nesting ≤ depth) : codec.Recovers depth value :=
  exact.faithful value depth fits

instance : int64.Exact where
  faithful value depth _ := by
    simp [int64, ofInt, integer?_ofInt_toInt, Text.int64?_toInt]
  definite _ := nofun

instance : bool.Exact := ⟨fun _ _ _ => rfl, fun _ => nofun⟩

instance : text.Exact := ⟨fun _ _ _ => rfl, fun _ => nofun⟩

theorem exact_textual {parse : String → Option α} {print : α → String}
    (inverse : ∀ value, parse (print value) = some value) : (textual parse print).Exact where
  faithful value depth _ := by
    simp [textual, text, ofString, inverse, bind, Except.bind]
  definite _ := nofun

theorem Exact.map (exact : codec.Exact) {make : α → β} {view : β → α}
    (inverse : ∀ value, make (view value) = value) : (codec.map make view).Exact :=
  ⟨exact.faithful.map inverse, fun value => exact.definite (view value)⟩

/-- Null is read as no value, so a value must not be written as null. -/
theorem Exact.option (exact : codec.Exact) : codec.option.Faithful := by
  intro value depth fits
  cases value with
  | none => rfl
  | some value =>
    have read := exact.faithful value depth fits
    have definite := exact.definite value
    simp only [Codec.option]
    rw [read]
    rfl

/-! ### Containers -/

theorem mapM_read {depth : Nat} {values : List α}
    (each : ∀ value ∈ values, codec.Recovers depth value) :
    (values.map codec.write).mapM (codec.read depth) = .ok values := by
  rw [mapM_eq_ok_iff, List.forall₂_map_left_iff, List.forall₂_same]
  exact each

theorem Recovers.list {depth : Nat} {values : List α}
    (each : ∀ value ∈ values, codec.Recovers depth value) :
    codec.list.Recovers (depth + 1) values := mapM_read each

instance [codec.Exact] : codec.list.Exact where
  faithful values depth fits := by
    obtain ⟨inside, rfl, items⟩ := exists_depth_of_array fits
    exact Recovers.list fun value member =>
      recovers_of_fits (items _ (List.mem_map_of_mem member))
  definite _ := nofun

instance [codec.Exact] : codec.pair.Exact where
  faithful value depth fits := by
    obtain ⟨inside, rfl, items⟩ := exists_depth_of_array fits
    have first : codec.read inside (codec.write value.1) = .ok value.1 :=
      recovers_of_fits (items _ (by simp))
    have second : codec.read inside (codec.write value.2) = .ok value.2 :=
      recovers_of_fits (items _ (by simp))
    simp [Codec.pair, first, second, bind, Except.bind, pure, Except.pure]
  definite _ := nofun

theorem readEntry_eq_ok_iff {depth : Nat} {member : Member} {entry : String × α} :
    readEntry codec depth member = .ok entry ↔
      member.1 = some entry.1 ∧ codec.read depth member.2 = .ok entry.2 := by
  obtain ⟨_ | name, document⟩ := member
  · simp [readEntry]
  · obtain ⟨name', value'⟩ := entry
    cases read : codec.read depth document <;>
      simp [readEntry, read, bind, Except.bind, pure, Except.pure]

theorem read_table {depth : Nat} {members : List Member} {entries : List (String × α)}
    (each : List.Forall₂ (fun member entry => member.1 = some entry.1 ∧
      codec.read depth member.2 = .ok entry.2) members entries) :
    codec.table.read (depth + 1) (.object members) = .ok (.ofEntries entries) := by
  have read : members.mapM (readEntry codec depth) = .ok entries :=
    mapM_eq_ok_iff.mpr (each.imp fun _ _ => readEntry_eq_ok_iff.mpr)
  simp only [Codec.table, read]
  rfl

instance [codec.Exact] : codec.table.Exact where
  faithful table depth fits := by
    obtain ⟨inside, rfl, members⟩ := exists_depth_of_members fits
    have each : ∀ entry ∈ table.entries, codec.Recovers inside entry.2 := fun entry member =>
      recovers_of_fits (members (entry.1, _) (List.mem_map.mpr ⟨entry, member, rfl⟩))
    have read : codec.table.read (inside + 1) (codec.table.write table) =
        .ok (.ofEntries table.entries) := by
      refine read_table ?_
      rw [List.map_map, List.forall₂_map_left_iff, List.forall₂_same]
      exact fun entry member => ⟨rfl, each entry member⟩
    rw [read, Table.ofEntries_entries]
  definite _ := nofun

/-! ### Texts -/

theorem decode_encode_of_recovers {value : α} (recovers : codec.Recovers nestingLimit value) :
    codec.decode (codec.encode value) = .ok value := by
  rw [decode, encode, parse?_compact]
  exact recovers

end Codec

end Quartermaster.Json

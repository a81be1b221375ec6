import Mathlib.Data.List.Nodup
import Quartermaster.Json.Fields
import Quartermaster.Proofs.Json.Codec

/-!
Records read back from their documents. Each field finds its member because the names of a record
are distinct (`holds_of_mem`), so a record is read back if each of its fields is
(`Fields.recovers_codec`), and its codec is exact if the codecs of its fields are
(`Fields.exact_codec`).
-/

namespace Quartermaster.Json

/-! ### Members of an object -/

/-- A name stands in an object once, with a document. -/
def Holds (members : Numbered) (name : String) (document : Json) : Prop :=
  ∃ position, occurrences name members = [(position, document)]

def textMembers (entries : List (String × Json)) : List Member :=
  entries.map fun (name, value) => (some name, value)

def numberedFrom (position : Nat) (members : List Member) : Numbered :=
  (members.zipIdx position).map fun (member, position) => (position, member)

theorem numberedFrom_cons (position : Nat) (member : Member) (rest : List Member) :
    numberedFrom position (member :: rest) =
      (position, member) :: numberedFrom (position + 1) rest := rfl

theorem occurrences_numberedFrom_cons (name : String) (position : Nat) (member : Member)
    (rest : List Member) :
    occurrences name (numberedFrom position (member :: rest)) =
      if member.1 = some name then
        (position, member.2) :: occurrences name (numberedFrom (position + 1) rest)
      else occurrences name (numberedFrom (position + 1) rest) := by
  by_cases same : member.1 = some name
  · simp [numberedFrom_cons, occurrences, same]
  · simp [numberedFrom_cons, occurrences, same]

theorem occurrences_cons (name : String) (position : Nat) (entry : String × Json)
    (rest : List (String × Json)) :
    occurrences name (numberedFrom position (textMembers (entry :: rest))) =
      if entry.1 = name then
        (position, entry.2) :: occurrences name (numberedFrom (position + 1) (textMembers rest))
      else occurrences name (numberedFrom (position + 1) (textMembers rest)) := by
  have member := occurrences_numberedFrom_cons name position (some entry.1, entry.2)
    (textMembers rest)
  simp only [Option.some.injEq] at member
  exact member

theorem occurrences_of_absent {entries : List (String × Json)} {name : String}
    (absent : name ∉ entries.map (·.1)) (position : Nat) :
    occurrences name (numberedFrom position (textMembers entries)) = [] := by
  induction entries generalizing position with
  | nil => rfl
  | cons entry rest ih =>
    simp only [List.map_cons, List.mem_cons, not_or] at absent
    rw [occurrences_cons, if_neg (Ne.symm absent.1), ih absent.2]

theorem holds_of_mem {entries : List (String × Json)} (distinct : (entries.map (·.1)).Nodup)
    {entry : String × Json} (member : entry ∈ entries) (position : Nat) :
    Holds (numberedFrom position (textMembers entries)) entry.1 entry.2 := by
  induction entries generalizing position with
  | nil => contradiction
  | cons head rest ih =>
    obtain ⟨absent, others⟩ := List.nodup_cons.mp distinct
    rcases List.mem_cons.mp member with rfl | later
    · refine ⟨position, ?_⟩
      rw [occurrences_cons, if_pos rfl, occurrences_of_absent absent]
    · obtain ⟨place, once⟩ := ih others later (position + 1)
      have other : head.1 ≠ entry.1 := fun same =>
        absent (List.mem_map.mpr ⟨entry, later, same.symm⟩)
      refine ⟨place, ?_⟩
      rw [occurrences_cons, if_neg other, once]

/-! ### Fields -/

namespace Fields

variable {ρ : Type} {α β : Type}

def Recovers {α : Type} (depth : Nat) (record : ρ) : Fields ρ α → Prop
  | .done _ => True
  | .more front last => front.Recovers depth record ∧ last.codec.Recovers depth (last.view record)

theorem names_write (fields : Fields ρ α) (record : ρ) :
    (fields.write record).map (·.1) = fields.names := by
  induction fields with
  | done make => rfl
  | more front last ih => simp [write, names, ih]

theorem readNamed_eq_read {depth : Nat} {members : Numbered} {record : ρ} (fields : Fields ρ α)
    (recovers : fields.Recovers depth record)
    (holds : ∀ entry ∈ fields.write record, Holds members entry.1 entry.2) :
    fields.readNamed depth members = .read (fields.value record) := by
  induction fields with
  | done make => rfl
  | more front last ih =>
    have before := ih recovers.1 fun entry member => holds entry (List.mem_append_left _ member)
    obtain ⟨position, once⟩ := holds _ (List.mem_append_right _ (List.mem_singleton.mpr rfl))
    have here : last.readNamed depth members = .read (last.view record) := by
      have read : last.codec.read depth _ = _ := recovers.2
      simp only [Field.readNamed, once, read]
    rw [readNamed, before, here]
    rfl

theorem checkNames_eq_read_iff {position : Nat} {members : List Member} :
    checkNames (numberedFrom position members) = .read () ↔
      ∀ member ∈ members, member.1.isSome := by
  induction members generalizing position with
  | nil => simp [numberedFrom, checkNames]
  | cons member rest ih =>
    obtain ⟨_ | name, document⟩ := member
    · simp [numberedFrom_cons, checkNames]
    · have later : checkNames (numberedFrom position ((some name, document) :: rest)) =
          checkNames (numberedFrom (position + 1) rest) := rfl
      simp [later, ih]

theorem checkNames_textMembers (position : Nat) (entries : List (String × Json)) :
    checkNames (numberedFrom position (textMembers entries)) = .read () := by
  refine checkNames_eq_read_iff.mpr fun member present => ?_
  obtain ⟨entry, -, rfl⟩ := List.mem_map.mp present
  rfl

/-- A record whose fields have different names is read back if its fields are. -/
theorem recovers_codec {fields : Fields ρ ρ} (distinct : fields.names.Nodup)
    (inverse : ∀ record, fields.value record = record) {depth : Nat} {record : ρ}
    (recovers : fields.Recovers depth record) : fields.codec.Recovers (depth + 1) record := by
  have names : ((fields.write record).map (·.1)).Nodup := by rwa [names_write]
  have read := fields.readNamed_eq_read recovers fun entry member => holds_of_mem names member 0
  have checked := checkNames_textMembers 0 (fields.write record)
  change fields.readObject depth (textMembers (fields.write record)) = _
  unfold readObject
  change ((checkNames (numberedFrom 0 _)).map _ |>.apply
    (fields.readNamed depth (numberedFrom 0 _))).toExcept = _
  rw [checked, read, inverse]
  rfl

class inductive Faithful : {α : Type} → Fields ρ α → Prop
  | done {α : Type} (make : α) : Faithful (.done make)
  | more {α β : Type} {front : Fields ρ (β → α)} {last : Field ρ β} (before : front.Faithful)
    (here : last.codec.Faithful) : Faithful (.more front last)

instance (make : α) : (done make : Fields ρ α).Faithful := .done make

instance {front : Fields ρ (β → α)} {name : String} {view : ρ → β} {codec : Codec β}
    [before : front.Faithful] [here : codec.Exact] : (front.required name view codec).Faithful :=
  .more before here.faithful

instance {front : Fields ρ (β → α)} {name : String} {view : ρ → β} {codec : Codec β} {value : β}
    [before : front.Faithful] [here : codec.Exact] :
    (front.defaulted name view codec value).Faithful :=
  .more before here.faithful

instance {front : Fields ρ (Option β → α)} {name : String} {view : ρ → Option β} {codec : Codec β}
    [before : front.Faithful] [here : codec.Exact] : (front.optional name view codec).Faithful :=
  .more before here.option

instance {front : Fields ρ (Option β → α)} {name : String} {view : ρ → Option β} {codec : Codec β}
    [before : front.Faithful] [here : codec.Exact] : (front.nullable name view codec).Faithful :=
  .more before here.option

theorem Faithful.recovers {fields : Fields ρ α} (faithful : fields.Faithful) {depth : Nat}
    {record : ρ} (fits : ∀ entry ∈ fields.write record, entry.2.nesting ≤ depth) :
    fields.Recovers depth record := by
  induction faithful with
  | done make => trivial
  | @more _ _ front last before here ih =>
    have inFront := ih fun entry member => fits entry (List.mem_append_left _ member)
    have inLast := fits (last.name, _) (List.mem_append_right _ (List.mem_singleton.mpr rfl))
    exact ⟨inFront, here _ _ inLast⟩

/-- The codec of a record is exact if those of its fields are and no name is used twice. -/
theorem exact_codec {fields : Fields ρ ρ} (distinct : fields.names.Nodup)
    (inverse : ∀ record, fields.value record = record) (faithful : fields.Faithful) :
    fields.codec.Exact where
  faithful record depth fits := by
    obtain ⟨inside, rfl, members⟩ := exists_depth_of_members fits
    exact recovers_codec distinct inverse (faithful.recovers members)
  definite _ := nofun

end Fields

end Quartermaster.Json

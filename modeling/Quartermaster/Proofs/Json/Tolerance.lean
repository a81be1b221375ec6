import Quartermaster.Proofs.Json.Objects

/-!
What a record does not notice of the object that it is read from. An object is read through the
documents under the names of the fields alone (`Fields.read_object_iff`), so neither the order of its
members nor a member of another name counts. A field that takes null is `Lenient` if null stands for
what an object without the field has; `Fields.Lenient` is found for all records whose fields either
refuse null or hold an optional value that need not be mentioned.
-/

namespace Quartermaster.Json

variable {ρ α β γ : Type} {depth : Nat} {name : String} {document document' : Json} {member : Member}
  {members members' front back : List Member}

/-! ### Documents under a name -/

theorem documentsOf_append (name : String) (front back : List Member) :
    documentsOf name (front ++ back) = documentsOf name front ++ documentsOf name back :=
  List.filterMap_append

theorem documentsOf_insert_same (same : member.1 = some name) :
    documentsOf name (front ++ member :: back) =
      documentsOf name front ++ member.2 :: documentsOf name back := by
  rw [documentsOf_append, documentsOf_cons, if_pos same]

theorem documentsOf_insert_other (other : member.1 ≠ some name) :
    documentsOf name (front ++ member :: back) = documentsOf name (front ++ back) := by
  rw [documentsOf_append, documentsOf_cons, if_neg other, documentsOf_append]

theorem documentsOf_perm (same : members.Perm members') (name : String) :
    (documentsOf name members).Perm (documentsOf name members') := same.filterMap _

namespace Codec

variable {codec : Codec α} {absent : Option α} {value : α}

theorem finds_congr (same : documentsOf name members = documentsOf name members') :
    codec.Finds depth name absent members value ↔ codec.Finds depth name absent members' value := by
  cases there : documentsOf name members' with
  | nil => rw [finds_of_nil there, finds_of_nil (same.trans there)]
  | cons document others => rw [finds_of_cons there, finds_of_cons (same.trans there)]

theorem Finds.perm (finds : codec.Finds depth name absent members value)
    (same : members.Perm members') : codec.Finds depth name absent members' value := by
  have documents := documentsOf_perm same name
  cases finds with
  | written only read =>
    rw [only] at documents
    exact .written (List.singleton_perm.mp documents).symm read
  | unwritten nowhere given =>
    rw [nowhere] at documents
    exact .unwritten (List.nil_perm.mp documents) given

theorem finds_of_inner {before after : List Json}
    (there : documentsOf name members = before ++ document :: after) :
    codec.Finds depth name absent members value ↔
      before = [] ∧ after = [] ∧ codec.read depth document = .ok value := by
  cases before with
  | nil => simp [finds_of_cons there]
  | cons first others => simp [finds_of_cons there]

/-! ### Null -/

/-- Null is no document of a value. -/
class RefusesNull (codec : Codec α) : Prop where
  refuses : ∀ depth value, codec.read depth .null ≠ .ok value

instance : int64.RefusesNull := ⟨nofun⟩

instance : double.RefusesNull where
  refuses depth value read := by
    change Except.error Flaw.mismatch = .ok value at read
    contradiction

instance : bool.RefusesNull := ⟨nofun⟩

instance : text.RefusesNull := ⟨nofun⟩

instance {parse : String → Option α} {print : α → String} :
    (textual parse print).RefusesNull := ⟨nofun⟩

instance : codec.list.RefusesNull := ⟨nofun⟩

instance [refuses : codec.RefusesNull] {make : α → β} {view : β → α} :
    (codec.map make view).RefusesNull where
  refuses depth value read := by
    obtain ⟨held, isRead, -⟩ := map_eq_ok_iff.mp read
    exact refuses.refuses depth held isRead

instance {fields : Fields ρ ρ} : fields.codec.RefusesNull := ⟨nofun⟩

theorem read_option_of_ne_null (some : document ≠ .null) :
    codec.option.read depth document = (codec.read depth document).map .some := by
  cases document <;> first | contradiction | rfl

theorem read_list_iff {items : List Json} {values : List α} :
    codec.list.read depth (.array items) = .ok values ↔ ∃ inside, depth = inside + 1 ∧
      List.Forall₂ (fun item value => codec.read inside item = .ok value) items values := by
  cases depth with
  | zero => simp [Codec.list]
  | succ inside => simp [Codec.list, mapM_eq_ok_iff]

end Codec

/-! ### Fields -/

namespace Field

/-- A value that null stands for is also that of an object that does not mention the field. -/
def Lenient (field : Field ρ α) : Prop :=
  ∀ value, (∀ depth, field.codec.read depth .null = .ok value) →
    field.absence.value? = some value

theorem lenient_of_refusesNull {field : Field ρ α} [refuses : field.codec.RefusesNull] :
    field.Lenient :=
  fun value read => absurd (read 0) (refuses.refuses 0 value)

theorem lenient_of_option {field : Field ρ (Option α)} {codec : Codec α}
    (optional : field.codec = codec.option) (empty : field.absence.value? = some none) :
    field.Lenient := by
  intro value read
  have none : codec.option.read 0 .null = .ok value := optional ▸ read 0
  cases none
  exact empty

def FoundAlike (field : Field ρ α) (depth : Nat) (members members' : List Member) : Prop :=
  ∀ value, field.codec.Finds depth field.name field.absence.value? members value ↔
    field.codec.Finds depth field.name field.absence.value? members' value

theorem foundAlike_perm (field : Field ρ α) (same : members.Perm members') :
    field.FoundAlike depth members members' :=
  fun _ => ⟨(·.perm same), (·.perm same.symm)⟩

theorem foundAlike_insert_other {field : Field ρ α} (other : member.1 ≠ some field.name) :
    field.FoundAlike depth (front ++ back) (front ++ member :: back) :=
  fun _ => Codec.finds_congr (documentsOf_insert_other other).symm

theorem foundAlike_replace_other {field : Field ρ α} (other : name ≠ field.name) :
    field.FoundAlike depth (front ++ (some name, document) :: back)
      (front ++ (some name, document') :: back) := by
  have apart : some name ≠ some field.name := fun same => other (Option.some.inj same)
  refine fun _ => Codec.finds_congr ?_
  rw [documentsOf_insert_other apart, documentsOf_insert_other apart]

/-- A lenient field of an optional value without a member may as well be null. -/
theorem foundAlike_null {field : Field ρ (Option α)} {codec : Codec α} (lenient : field.Lenient)
    (optional : field.codec = codec.option)
    (absent : ∀ member ∈ front ++ back, member.1 ≠ some field.name) :
    field.FoundAlike depth (front ++ back) (front ++ (some field.name, .null) :: back) := by
  intro value
  have isNull (depth : Nat) : field.codec.read depth .null = .ok none := by
    rw [optional]
    rfl
  have nowhere := documentsOf_eq_nil absent
  have front := documentsOf_eq_nil fun member present => absent member (List.mem_append_left _ present)
  have back := documentsOf_eq_nil fun member present => absent member (List.mem_append_right _ present)
  rw [Codec.finds_of_nil nowhere, Codec.finds_of_inner (documentsOf_insert_same rfl), front, back,
    lenient none isNull, isNull depth]
  simp

theorem foundAlike_replace {field : Field ρ α}
    (alike : ∀ value, field.codec.read depth document = .ok value ↔
      field.codec.read depth document' = .ok value) :
    field.FoundAlike depth (front ++ (some field.name, document) :: back)
      (front ++ (some field.name, document') :: back) := by
  intro value
  rw [Codec.finds_of_inner (documentsOf_insert_same rfl),
    Codec.finds_of_inner (documentsOf_insert_same rfl), alike]

end Field

namespace Fields

inductive Has (field : Field ρ β) : {α : Type} → Fields ρ α → Prop
  | last {α : Type} (front : Fields ρ (β → α)) : Has field (.more front field)
  | before {α γ : Type} {front : Fields ρ (γ → α)} {last : Field ρ γ} (has : Has field front) :
    Has field (.more front last)

theorem Has.name_mem {field : Field ρ β} {fields : Fields ρ α} (has : fields.Has field) :
    field.name ∈ fields.names := by
  induction has with
  | last front => simp [names]
  | before has ih => simp [names, ih]

theorem Has.eq_of_name {field : Field ρ β} {other : Field ρ γ} {fields : Fields ρ α}
    (has : fields.Has field) (hasOther : fields.Has other) (distinct : fields.names.Nodup)
    (same : field.name = other.name) : (⟨β, field⟩ : Σ type, Field ρ type) = ⟨γ, other⟩ := by
  induction fields with
  | done make => cases has
  | more front last ih =>
    -- the name of the last field is none of those in front of it
    obtain ⟨inFront, -, apart⟩ := List.nodup_append.mp distinct
    cases has with
    | last =>
      cases hasOther with
      | last => rfl
      | before hasOther => exact absurd same.symm (apart _ hasOther.name_mem _ (by simp))
    | before has =>
      cases hasOther with
      | last => exact absurd same (apart _ has.name_mem _ (by simp))
      | before hasOther => exact ih has hasOther inFront

theorem finds_congr {fields : Fields ρ α}
    (each : ∀ {β : Type} (field : Field ρ β), fields.Has field →
      field.FoundAlike depth members members') (value : α) :
    fields.Finds depth members value ↔ fields.Finds depth members' value := by
  induction fields with
  | done make => rfl
  | more front last ih =>
    simp only [Finds, ih (fun field has => each field (.before has)), each last (.last front) _]

/-- Each field that takes null does without a member as well. -/
class inductive Lenient : {α : Type} → Fields ρ α → Prop
  | done {α : Type} (make : α) : Lenient (.done make)
  | more {α β : Type} {front : Fields ρ (β → α)} {last : Field ρ β} (before : front.Lenient)
    (here : last.Lenient) : Lenient (.more front last)

instance (make : α) : (done make : Fields ρ α).Lenient := .done make

instance {front : Fields ρ (β → α)} {name : String} {view : ρ → β} {codec : Codec β}
    [before : front.Lenient] [codec.RefusesNull] : (front.required name view codec).Lenient :=
  .more before Field.lenient_of_refusesNull

instance {front : Fields ρ (β → α)} {name : String} {view : ρ → β} {codec : Codec β} {value : β}
    [before : front.Lenient] [codec.RefusesNull] :
    (front.defaulted name view codec value).Lenient :=
  .more before Field.lenient_of_refusesNull

instance {front : Fields ρ (Option β → α)} {name : String} {view : ρ → Option β} {codec : Codec β}
    [before : front.Lenient] : (front.optional name view codec).Lenient :=
  .more before (Field.lenient_of_option rfl rfl)

instance {front : Fields ρ (Option β → α)} {name : String} {view : ρ → Option β} {codec : Codec β}
    [before : front.Lenient] : (front.nullable name view codec).Lenient :=
  .more before (Field.lenient_of_option rfl rfl)

theorem Lenient.of_has {field : Field ρ β} {fields : Fields ρ α} (lenient : fields.Lenient)
    (has : fields.Has field) : field.Lenient := by
  induction lenient with
  | done make => cases has
  | more before here ih =>
    cases has with
    | last => exact here
    | before has => exact ih has

/-! ### Objects -/

/-- A record is read from an object whose names are texts and where all its fields are found. -/
theorem read_object_iff {fields : Fields ρ ρ} {record : ρ} :
    fields.codec.read depth (.object members) = .ok record ↔ ∃ inside, depth = inside + 1 ∧
      (∀ member ∈ members, member.1.isSome) ∧ fields.Finds inside members record := by
  cases depth with
  | zero => simp [codec]
  | succ inside =>
    have names : checkNames (numbered members) = .read () ↔ _ := checkNames_eq_read_iff
    simp only [codec, readObject, Outcome.toExcept_eq_ok_iff, Outcome.apply_eq_read_iff,
      Outcome.map_eq_read_iff, readNamed_eq_read_iff, ← names]
    constructor
    · rintro ⟨_, _, ⟨_, checked, rfl⟩, found, rfl⟩
      exact ⟨inside, rfl, checked, found⟩
    · rintro ⟨_, ⟨⟩, checked, found⟩
      exact ⟨_, record, ⟨(), checked, rfl⟩, found, rfl⟩

variable {fields : Fields ρ ρ} {field : Field ρ β} {record : ρ}

theorem read_congr (named : (∀ member ∈ members, member.1.isSome) ↔ ∀ member ∈ members', member.1.isSome)
    (each : ∀ inside {β : Type} (field : Field ρ β), fields.Has field →
      field.FoundAlike inside members members') :
    fields.codec.read depth (.object members) = .ok record ↔
      fields.codec.read depth (.object members') = .ok record := by
  simp only [read_object_iff, named, finds_congr (each _)]

theorem read_reorder (same : members.Perm members') :
    fields.codec.read depth (.object members) = .ok record ↔
      fields.codec.read depth (.object members') = .ok record := by
  refine read_congr ?_ fun inside _ field _ => field.foundAlike_perm same
  simp only [same.mem_iff]

theorem named_insert : (∀ member ∈ front ++ back, member.1.isSome) ↔
    ∀ member ∈ front ++ (some name, document) :: back, member.1.isSome := by
  simp only [List.forall_mem_append, List.forall_mem_cons, Option.isSome_some, true_and]

/-- A member that is no field does not count. -/
theorem read_insert (unknown : name ∉ fields.names) :
    fields.codec.read depth (.object (front ++ back)) = .ok record ↔
      fields.codec.read depth (.object (front ++ (some name, document) :: back)) = .ok record := by
  refine read_congr named_insert fun inside _ field has => Field.foundAlike_insert_other ?_
  rintro ⟨⟩
  exact unknown has.name_mem

theorem read_null {field : Field ρ (Option β)} {codec : Codec β} (distinct : fields.names.Nodup)
    (lenient : fields.Lenient) (has : fields.Has field) (optional : field.codec = codec.option)
    (absent : ∀ member ∈ front ++ back, member.1 ≠ some field.name) :
    fields.codec.read depth (.object (front ++ back)) = .ok record ↔
      fields.codec.read depth (.object (front ++ (some field.name, .null) :: back)) =
        .ok record := by
  refine read_congr named_insert fun inside _ other hasOther => ?_
  by_cases same : field.name = other.name
  · cases has.eq_of_name hasOther distinct same
    exact Field.foundAlike_null (lenient.of_has has) optional absent
  · exact Field.foundAlike_insert_other (mt Option.some.inj same)

/-- Documents that the field reads alike may stand for each other. -/
theorem read_replace (distinct : fields.names.Nodup) (has : fields.Has field)
    (alike : ∀ depth value, field.codec.read depth document = .ok value ↔
      field.codec.read depth document' = .ok value) :
    fields.codec.read depth (.object (front ++ (some field.name, document) :: back)) = .ok record ↔
      fields.codec.read depth (.object (front ++ (some field.name, document') :: back)) =
        .ok record := by
  refine read_congr (named_insert.symm.trans named_insert) fun inside _ other hasOther => ?_
  by_cases same : field.name = other.name
  · cases has.eq_of_name hasOther distinct same
    exact Field.foundAlike_replace (alike inside)
  · exact Field.foundAlike_replace_other same

end Fields

end Quartermaster.Json

import Quartermaster.Proofs.Json.Fields

/-!
What fields are read as from the members of an object. A field only looks at the members of its
name: without one it has the value that it has in an object that does not mention it, and otherwise
there has to be one alone, which its codec reads (`Fields.readNamed_eq_read_iff`).
-/

namespace Quartermaster.Json

variable {ρ α β : Type} {depth : Nat} {members : List Member}

/-! ### Documents under a name -/

def documentsOf (name : String) (members : List Member) : List Json :=
  members.filterMap fun member => if member.1 = some name then some member.2 else none

theorem documentsOf_cons (name : String) (member : Member) (rest : List Member) :
    documentsOf name (member :: rest) =
      if member.1 = some name then member.2 :: documentsOf name rest
      else documentsOf name rest := by
  by_cases same : member.1 = some name
  · simp [documentsOf, same]
  · simp [documentsOf, same]

theorem documentsOf_eq_nil {name : String} (absent : ∀ member ∈ members, member.1 ≠ some name) :
    documentsOf name members = [] :=
  List.filterMap_eq_nil_iff.mpr fun member present => if_neg (absent member present)

theorem documentsOf_textMembers (name : String) (entries : List (String × Json)) :
    documentsOf name (textMembers entries) = Table.valuesUnder name entries := by
  induction entries with
  | nil => rfl
  | cons entry rest ih =>
    rw [Table.valuesUnder_cons, ← ih]
    simp [textMembers, documentsOf_cons]

theorem forall₂_valuesUnder {fits : Json → α → Prop} {entries : List (String × α)}
    (each : List.Forall₂ (fun member entry => member.1 = some entry.1 ∧ fits member.2 entry.2)
      members entries) (name : String) :
    List.Forall₂ fits (documentsOf name members) (Table.valuesUnder name entries) := by
  induction each with
  | nil => exact .nil
  | @cons member entry _ _ here later ih =>
    obtain ⟨named, fit⟩ := here
    rw [documentsOf_cons, Table.valuesUnder_cons, named]
    by_cases same : entry.1 = name
    · rw [if_pos (congrArg some same), if_pos same]
      exact .cons fit ih
    · rw [if_neg (mt Option.some.inj same), if_neg same]
      exact ih

/-- The occurrences of a name are its documents with their positions. -/
theorem map_snd_occurrences (name : String) (position : Nat) (members : List Member) :
    (occurrences name (numberedFrom position members)).map Prod.snd = documentsOf name members := by
  induction members generalizing position with
  | nil => rfl
  | cons member rest ih =>
    rw [documentsOf_cons, occurrences_numberedFrom_cons, ← ih (position + 1)]
    split <;> rfl

/-! ### Outcomes -/

namespace Outcome

variable {outcome : Outcome β}

theorem apply_eq_read_iff {makes : Outcome (β → α)} {value : α} :
    makes.apply outcome = .read value ↔
      ∃ make held, makes = .read make ∧ outcome = .read held ∧ make held = value := by
  cases makes with
  | read make => cases outcome <;> simp [apply]
  | missing name => cases outcome <;> simp [apply]
  | flawed position flaw =>
    cases outcome <;> simp [apply]
    split <;> simp

theorem map_eq_read_iff {make : β → α} {value : α} :
    outcome.map make = .read value ↔ ∃ held, outcome = .read held ∧ make held = value := by
  cases outcome <;> simp [map]

theorem toExcept_eq_ok_iff {value : β} : outcome.toExcept = .ok value ↔ outcome = .read value := by
  cases outcome <;> simp [toExcept]

end Outcome

/-! ### Fields -/

/-- The value of a field that an object does not mention, unless it has to. -/
def Absence.value? : Absence α → Option α
  | .required => none
  | .unnamed value => some value
  | .default value => some value

/--
What a codec finds under a name: what it reads the only document there as, or without any document
the value there is then.
-/
inductive Codec.Finds (codec : Codec α) (depth : Nat) (name : String) (absent : Option α)
    (members : List Member) : α → Prop
  | written {document : Json} {value : α} (only : documentsOf name members = [document])
    (read : codec.read depth document = .ok value) : Finds codec depth name absent members value
  | unwritten {value : α} (nowhere : documentsOf name members = [])
    (given : absent = some value) : Finds codec depth name absent members value

theorem Codec.finds_of_nil {codec : Codec α} {name : String} {absent : Option α} {value : α}
    (nowhere : documentsOf name members = []) :
    codec.Finds depth name absent members value ↔ absent = some value := by
  constructor
  · rintro (⟨only, -⟩ | ⟨-, given⟩)
    · simp [nowhere] at only
    · exact given
  · exact .unwritten nowhere

theorem Codec.finds_of_cons {codec : Codec α} {name : String} {absent : Option α} {value : α}
    {document : Json} {others : List Json} (there : documentsOf name members = document :: others) :
    codec.Finds depth name absent members value ↔
      others = [] ∧ codec.read depth document = .ok value := by
  constructor
  · rintro (⟨only, read⟩ | ⟨nowhere, -⟩)
    · obtain ⟨rfl, rfl⟩ := List.cons.inj (there.symm.trans only)
      exact ⟨rfl, read⟩
    · simp [there] at nowhere
  · rintro ⟨rfl, read⟩
    exact .written there read

theorem Field.ofUnnamed_eq_read_iff {field : Field ρ α} {value : α} :
    field.ofUnnamed = .read value ↔ field.absence.value? = some value := by
  unfold ofUnnamed Absence.value?
  cases field.absence <;> simp

theorem Field.readNamed_eq_read_iff {field : Field ρ α} {value : α} :
    field.readNamed depth (numbered members) = .read value ↔
      field.codec.Finds depth field.name field.absence.value? members value := by
  have documents : (occurrences field.name (numbered members)).map Prod.snd = _ :=
    map_snd_occurrences field.name 0 members
  unfold readNamed
  cases found : occurrences field.name (numbered members) with
  | nil =>
    rw [found] at documents
    exact ofUnnamed_eq_read_iff.trans (Codec.finds_of_nil documents.symm).symm
  | cons first others =>
    rw [found, List.map_cons] at documents
    rw [Codec.finds_of_cons documents.symm]
    cases read : field.codec.read depth first.2 with
    | error flaw => simp [read]
    | ok value' => cases others <;> simp [read]

namespace Fields

/-- The fields find their values, of which a value is made. -/
def Finds (depth : Nat) (members : List Member) : {α : Type} → Fields ρ α → α → Prop
  | _, .done make, value => make = value
  | _, .more front last, value =>
    ∃ make held, front.Finds depth members make ∧
      last.codec.Finds depth last.name last.absence.value? members held ∧ make held = value

theorem readNamed_eq_read_iff {fields : Fields ρ α} {value : α} :
    fields.readNamed depth (numbered members) = .read value ↔
      fields.Finds depth members value := by
  induction fields with
  | done make => simp [readNamed, Finds]
  | more front last ih =>
    simp only [readNamed, Finds, Outcome.apply_eq_read_iff, ih, Field.readNamed_eq_read_iff]

end Fields

end Quartermaster.Json

import Quartermaster.Combat.Log
import Quartermaster.Proofs.Json.Objects
import Quartermaster.Proofs.Json.Value

/-!
A combat log holds all that the object says that it is read from, and so does the object that it is
written as (`log_keeps_members`). Its members are parted by their names: the fields of a log take
those with their own, and the table of others takes all the rest.
-/

namespace Quartermaster.Combat.Log

open Json (Codec Fields Outcome Value documentsOf numberedFrom textMembers)

variable {depth position : Nat} {members : List Json.Member} {name : String} {log : Log}

def ownNames : List String :=
  ["db_id", "character_name", "start", "end", "damage_done", "damage_taken"]

theorem names_fields : fields.names = ownNames := rfl

/-- The depth at which the members of the outermost object are read. -/
def inside : Nat := Json.nestingLimit - 1

/-! ### Members that are no fields -/

/-- The members whose names are none of a log's own. -/
def foreign (members : List Json.Member) : List Json.Member :=
  members.filter fun member => ∀ own ∈ ownNames, member.1 ≠ some own

theorem foreign_cons_own {document : Json} (own : name ∈ ownNames) (rest : List Json.Member) :
    foreign ((some name, document) :: rest) = foreign rest :=
  List.filter_cons_of_neg (by simpa using own)

theorem foreign_cons_other {member : Json.Member} (other : ∀ own ∈ ownNames, member.1 ≠ some own)
    (rest : List Json.Member) : foreign (member :: rest) = member :: foreign rest :=
  List.filter_cons_of_pos (by simpa using other)

theorem documentsOf_foreign_own (own : name ∈ ownNames) :
    documentsOf name (foreign members) = [] := by
  refine Json.documentsOf_eq_nil fun member present => ?_
  have other := (List.mem_filter.mp present).2
  exact of_decide_eq_true other name own

theorem documentsOf_foreign_other (other : name ∉ ownNames) :
    documentsOf name (foreign members) = documentsOf name members := by
  rw [documentsOf, foreign, List.filterMap_filter]
  refine List.filterMap_congr fun member _ => ?_
  by_cases named : member.1 = some name
  · have isForeign : ∀ own ∈ ownNames, member.1 ≠ some own := by
      rintro own present again
      exact other (Option.some.inj (named.symm.trans again) ▸ present)
    rw [if_pos (decide_eq_true isForeign)]
  · simp [named]

theorem forall₂_of_readOthers {entries : List (String × Value)}
    (read : readOthers depth (numberedFrom position members) = .read entries) :
    List.Forall₂ (fun member entry => member.1 = some entry.1 ∧
      Value.IsReadAs depth member.2 entry.2) (foreign members) entries := by
  induction members generalizing position entries with
  | nil =>
    cases read
    exact .nil
  | cons member rest ih =>
    obtain ⟨_ | name, document⟩ := member
    · cases read
    · rw [Json.numberedFrom_cons, readOthers, names_fields] at read
      by_cases own : name ∈ ownNames
      · rw [if_pos own] at read
        rw [foreign_cons_own own]
        exact ih read
      · rw [if_neg own] at read
        have isForeign : ∀ known ∈ ownNames, some name ≠ some known := by
          rintro known present ⟨⟩
          exact own present
        rw [foreign_cons_other isForeign]
        cases found : Value.read depth document with
        | error flaw =>
          rw [found] at read
          contradiction
        | ok value =>
          rw [found] at read
          obtain ⟨later, rest, rfl⟩ := Outcome.map_eq_read_iff.mp read
          exact .cons ⟨rfl, found⟩ (ih rest)

/-! ### Reading -/

theorem named_of_foreign {entries : List (String × Value)}
    (each : List.Forall₂ (fun member entry => member.1 = some entry.1 ∧
      Value.IsReadAs depth member.2 entry.2) (foreign members) entries) :
    ∀ member ∈ members, member.1.isSome := by
  intro member present
  by_cases isForeign : ∀ own ∈ ownNames, member.1 ≠ some own
  · have among : member ∈ foreign members :=
      List.mem_filter.mpr ⟨present, decide_eq_true isForeign⟩
    obtain ⟨entry, -, named, -⟩ := exists_beside each among
    exact Option.isSome_of_eq_some named
  · push Not at isForeign
    obtain ⟨own, -, named⟩ := isForeign
    exact Option.isSome_of_eq_some named

/-- What a log holds of an object with these members. -/
structure Keeps (members : List Json.Member) (log : Log) : Prop where
  named : ∀ member ∈ members, member.1.isSome
  /-- A field holds what the only member of its name is read as, or is empty without one. -/
  databaseId : Codec.int64.option.Finds inside "db_id" (some none) members log.databaseId
  characterName : Codec.text.option.Finds inside "character_name" (some none) members
    log.characterName
  start : Codec.text.option.Finds inside "start" (some none) members log.start
  stop : Codec.text.option.Finds inside "end" (some none) members log.stop
  damageDone : DamageEntry.codec.list.Finds inside "damage_done" (some []) members log.damageDone
  damageTaken : DamageEntry.codec.list.Finds inside "damage_taken" (some []) members
    log.damageTaken
  /-- The others hold no member of a field. -/
  own : ∀ name ∈ ownNames, log.others.get? name = none
  /-- Under each other name they hold the value of its last member, and nothing without one. -/
  other : ∀ name ∉ ownNames,
    Option.Rel (Value.IsReadAs inside) (documentsOf name members).getLast? (log.others.get? name)

/-- What an object with these members holds of a log. -/
structure Shows (log : Log) (members : List Json.Member) : Prop where
  named : ∀ member ∈ members, member.1.isSome
  /-- Each field has one member. -/
  databaseId : documentsOf "db_id" members = [Codec.int64.option.write log.databaseId]
  characterName : documentsOf "character_name" members =
    [Codec.text.option.write log.characterName]
  start : documentsOf "start" members = [Codec.text.option.write log.start]
  stop : documentsOf "end" members = [Codec.text.option.write log.stop]
  damageDone : documentsOf "damage_done" members = [DamageEntry.codec.list.write log.damageDone]
  damageTaken : documentsOf "damage_taken" members = [DamageEntry.codec.list.write log.damageTaken]
  /-- The other members are those of the others, one of each name. -/
  other : ∀ name ∉ ownNames,
    documentsOf name members = ((log.others.get? name).map Value.write).toList
  /-- Their values are read back from them, but for real numbers. -/
  readBack : ∀ name value, log.others.get? name = some value → value.Whole →
    Value.IsReadAs inside value.write value

theorem exists_of_decode {text : String} (accepted : codec.decode text = .ok log) :
    ∃ members, Json.parse? text = some (.object members) ∧ readObject inside members = .ok log := by
  unfold Codec.decode at accepted
  cases found : Json.parse? text with
  | none =>
    rw [found] at accepted
    contradiction
  | some document =>
    rw [found] at accepted
    cases document with
    | object members => exact ⟨members, rfl, accepted⟩
    | _ => cases accepted

theorem keeps_of_readObject (read : readObject inside members = .ok log) : Keeps members log := by
  obtain ⟨make, table, own, others, rfl⟩ :=
    Outcome.apply_eq_read_iff.mp (Outcome.toExcept_eq_ok_iff.mp read)
  obtain ⟨entries, entriesRead, rfl⟩ := Outcome.map_eq_read_iff.mp others
  have each := forall₂_of_readOthers entriesRead
  rw [Fields.readNamed_eq_read_iff] at own
  obtain ⟨_, damageTaken, ⟨_, damageDone, ⟨_, stop, ⟨_, start, ⟨_, characterName, ⟨_, databaseId,
    rfl, foundId, rfl⟩, foundName, rfl⟩, foundStart, rfl⟩, foundStop, rfl⟩, foundDone, rfl⟩,
    foundTaken, rfl⟩ := own
  exact {
    named := named_of_foreign each
    databaseId := foundId
    characterName := foundName
    start := foundStart
    stop := foundStop
    damageDone := foundDone
    damageTaken := foundTaken
    own := fun name own => by
      have values := Json.forall₂_valuesUnder each name
      rw [documentsOf_foreign_own own] at values
      rw [Table.get?_ofEntries_eq, List.forall₂_nil_left_iff.mp values, List.getLast?_nil]
    other := fun name other => by
      have values := Json.forall₂_valuesUnder each name
      rw [documentsOf_foreign_other other] at values
      rw [Table.get?_ofEntries_eq]
      exact getLast?_of_forall₂ values }

/-! ### Writing -/

def otherEntries (log : Log) : List (String × Json) :=
  log.others.entries.map fun entry => (entry.1, entry.2.write)

theorem parse?_encode (log : Log) :
    Json.parse? (codec.encode log) =
      some (.object (textMembers (fields.write log ++ log.otherEntries))) :=
  Json.parse?_compact _

theorem documentsOf_written (log : Log) (name : String) :
    documentsOf name (textMembers (fields.write log ++ log.otherEntries)) =
      Table.valuesUnder name (fields.write log) ++
        ((log.others.get? name).map Value.write).toList := by
  rw [Json.documentsOf_textMembers, Table.valuesUnder_append, otherEntries, Table.valuesUnder_map,
    Table.valuesUnder_entries]
  cases log.others.get? name <;> rfl

theorem documentsOf_written_own {name : String} (absent : log.others.get? name = none) :
    documentsOf name (textMembers (fields.write log ++ log.otherEntries)) =
      Table.valuesUnder name (fields.write log) := by
  rw [documentsOf_written, absent, Option.map_none, Option.toList_none, List.append_nil]

theorem documentsOf_written_other {name : String} (other : name ∉ ownNames) :
    documentsOf name (textMembers (fields.write log ++ log.otherEntries)) =
      ((log.others.get? name).map Value.write).toList := by
  have nowhere : name ∉ (fields.write log).map (·.1) := by
    rwa [Fields.names_write, names_fields]
  rw [documentsOf_written, Table.valuesUnder_eq_nil nowhere, List.nil_append]

/-- A log that keeps what an object holds is written as an object that shows all of it. -/
theorem Keeps.shows (keeps : Keeps members log) :
    Shows log (textMembers (fields.write log ++ log.otherEntries)) where
  named := by
    intro member present
    obtain ⟨entry, -, rfl⟩ := List.mem_map.mp present
    rfl
  databaseId := documentsOf_written_own (keeps.own "db_id" (by decide))
  characterName := documentsOf_written_own (keeps.own "character_name" (by decide))
  start := documentsOf_written_own (keeps.own "start" (by decide))
  stop := documentsOf_written_own (keeps.own "end" (by decide))
  damageDone := documentsOf_written_own (keeps.own "damage_done" (by decide))
  damageTaken := documentsOf_written_own (keeps.own "damage_taken" (by decide))
  other := fun name => documentsOf_written_other
  readBack := by
    intro name value held whole
    have foreign : name ∉ ownNames := by
      intro own
      rw [keeps.own name own] at held
      contradiction
    have read := keeps.other name foreign
    rw [held] at read
    obtain ⟨document, -, isRead⟩ := exists_of_rel_some read
    exact Value.read_write isRead whole

/-- A log with damage done, and with two members of one name that is no field. -/
def pilotText : String :=
  (Json.ofMembers
    [("max_from", .null), ("db_id", .ofInt 12), ("character_name", .ofString "Pilot"),
      ("damage_done", .array [.ofMembers [("name", .ofString "Rifter"), ("count", .ofInt 3)]]),
      ("max_from", .ofMembers [("name", .ofString "x"), ("hits", .array [.ofInt 1])])]).compact

end Quartermaster.Combat.Log

import Quartermaster.Proofs.Json.Codec
import Quartermaster.SunTypes

/-!
Which tables of sun types an object can be read as. The members that count, the last one of each
name, are taken in an order that nothing determines. Whether the reading fails does not depend on
the order, nor whether a system is known; but a system with several names, as `1` and `01`, gets the
type of any of them. So the table is determined by the object just when all names of a system have
one type (`reading_of_object`).
-/

namespace Quartermaster.SunTypes

open Json (Codec)

variable {members order : List (String × Int64)} {system : SolarSystemId} {types : SunTypes}

/-! ### Members and their orders -/

def IsMember (document : Json.Member) (member : String × Int64) : Prop :=
  ∃ literal, document = (some member.1, .number literal) ∧
    literal.integer? = some member.2.toInt

/-- The text of an object with these members. -/
def IsObjectOf (content : String) (members : List (String × Int64)) : Prop :=
  ∃ documents, Json.parse? content = some (.object documents) ∧
    List.Forall₂ IsMember documents members

def objectText (members : List (String × Int64)) : String :=
  (Json.ofMembers (members.map fun member => (member.1, .ofInt member.2.toInt))).compact

theorem isObjectOf_objectText (members : List (String × Int64)) :
    IsObjectOf (objectText members) members := by
  refine ⟨_, Json.parse?_compact _, ?_⟩
  rw [List.forall₂_map_left_iff, List.forall₂_map_left_iff, List.forall₂_same]
  intro member _
  exact ⟨_, rfl, Json.integer?_ofInt_toInt member.2⟩

/-- The last member of its name, which counts. -/
def Counts (members : List (String × Int64)) (member : String × Int64) : Prop :=
  LastUnder Prod.fst member.1 members member

/-- An order in which the members that count can be taken. -/
structure IsOrder (members order : List (String × Int64)) : Prop where
  once : (order.map Prod.fst).Nodup
  mem_iff : ∀ member, member ∈ order ↔ Counts members member

/-- What the members are read as in some order. -/
def MayGive (members : List (String × Int64)) (result : Except SunTypesError SunTypes) : Prop :=
  ∃ order, IsOrder members order ∧ ofEntries order = result

theorem Counts.mem {member : String × Int64} (counts : Counts members member) :
    member ∈ members := LastUnder.mem counts

theorem exists_counts {member : String × Int64} (present : member ∈ members) :
    ∃ last, Counts members last ∧ last.1 = member.1 := by
  have named : member.1 ∈ members.map Prod.fst := List.mem_map_of_mem present
  obtain ⟨last, found⟩ := LastUnder.exists_of_mem named
  have same : last.1 = member.1 := found.key_eq
  rw [← same] at found
  exact ⟨last, found, same⟩

/-- Members with different names all count, in the order in which they stand too. -/
theorem isOrder_of_distinct (distinct : (members.map Prod.fst).Nodup) :
    IsOrder members members := by
  refine ⟨distinct, fun member => ⟨fun present => ?_, Counts.mem⟩⟩
  obtain ⟨last, counts, same⟩ := exists_counts present
  exact List.inj_on_of_nodup_map distinct counts.mem present same ▸ counts

theorem IsOrder.perm {other : List (String × Int64)} (isOrder : IsOrder members order)
    (perm : other.Perm order) : IsOrder members other :=
  ⟨(perm.map Prod.fst).nodup_iff.mpr isOrder.once,
    fun member => perm.mem_iff.trans (isOrder.mem_iff member)⟩

theorem IsOrder.endingWith {member : String × Int64} (isOrder : IsOrder members order)
    (counts : Counts members member) : IsOrder members (order.erase member ++ [member]) :=
  isOrder.perm ((List.perm_append_singleton ..).trans
    (List.perm_cons_erase ((isOrder.mem_iff member).mpr counts)).symm)

theorem isOrder_entries (members : List (String × Int64)) :
    IsOrder members (Table.ofEntries members).entries := by
  refine ⟨(Table.pairwise_keys _).imp fun {_ _} below => ?_, fun member => ?_⟩
  · rintro rfl
    exact String.lt_irrefl _ below
  · have held : (Table.ofEntries (members.map fun member => (member.1, member.2))).get? member.1 =
        some member.2 ↔ ∃ last, LastUnder Prod.fst member.1 members last ∧ member.2 = last.2 :=
      Table.get?_ofEntries_iff
    rw [List.map_id'] at held
    refine Table.mem_entries_iff.trans (held.trans ⟨?_, ?_⟩)
    · rintro ⟨last, found, value⟩
      have same : last = member := Prod.ext found.key_eq value.symm
      exact same ▸ found
    · intro counts
      exact ⟨member, counts, rfl⟩

/-! ### Names of systems -/

/-- A name of a system: a numeral of its number, with zeros in front or a sign perhaps. -/
def Names (name : String) (system : SolarSystemId) : Prop :=
  Text.Denotes name.toList system.number.toInt

def NamesNone (name : String) : Prop := ∀ system, ¬Names name system

theorem names_iff {name : String} :
    Names name system ↔ Text.readInt64? name.toList = some system.number :=
  Text.readInt64?_eq_some_iff.symm

instance (name : String) (system : SolarSystemId) : Decidable (Names name system) :=
  decidable_of_iff _ names_iff.symm

theorem Names.unique {name : String} {other : SolarSystemId} (names : Names name system)
    (again : Names name other) : system = other := by
  have same := (names_iff.mp names).symm.trans (names_iff.mp again)
  cases system
  cases other
  exact congrArg _ (Option.some.inj same)

theorem readEntry_eq_ok_iff {member : String × Int64} {entry : SolarSystemId × Int64} :
    readEntry member = .ok entry ↔ Names member.1 entry.1 ∧ entry.2 = member.2 := by
  rw [names_iff]
  obtain ⟨⟨number⟩, value⟩ := entry
  cases read : Text.readInt64? member.1.toList with
  | none => simp [readEntry, read]
  | some found => simp [readEntry, read, eq_comm]

theorem readEntry_eq_error_iff {member : String × Int64} {error : SunTypesError} :
    readEntry member = .error error ↔ NamesNone member.1 ∧ error = .invalidId member.1 := by
  simp only [NamesNone, names_iff]
  cases read : Text.readInt64? member.1.toList with
  | none => simp [readEntry, read, eq_comm]
  | some found =>
    refine iff_of_false (by simp [readEntry, read]) fun fails => ?_
    exact fails.1 ⟨found⟩ rfl

/-! ### Reading in an order -/

theorem ofEntries_eq_ok_iff :
    ofEntries order = .ok types ↔
      List.Forall₂ (fun member entry => readEntry member = .ok entry) order
        types.entries.reverse := by
  obtain ⟨entries⟩ := types
  simp only [ofEntries, map_eq_ok_iff, mapM_eq_ok_iff, mk.injEq, List.reverse_eq_iff,
    exists_eq_right]

theorem ofEntries_eq_error_iff {error : SunTypesError} :
    ofEntries order = .error error ↔ order.mapM readEntry = .error error := by
  rw [ofEntries]
  cases order.mapM readEntry <;> simp [Except.map]

theorem lookup_of_read {entries : List (SolarSystemId × Int64)}
    (read : List.Forall₂ (fun member entry => readEntry member = .ok entry) order entries)
    (system : SolarSystemId) :
    entries.lookup system = (order.find? fun member => Names member.1 system).map Prod.snd := by
  induction read with
  | nil => rfl
  | @cons member entry _ _ here later ih =>
    obtain ⟨known, type⟩ := entry
    obtain ⟨names, rfl⟩ := readEntry_eq_ok_iff.mp here
    by_cases same : system = known
    · subst same
      simp [names]
    · have other : ¬Names member.1 system := fun again => same (again.unique names)
      simpa [List.lookup_cons, beq_eq_false_iff_ne.mpr same, other] using ih

theorem get?_of_ofEntries (read : ofEntries order = .ok types) (system : SolarSystemId) :
    types.get? system =
      (order.reverse.find? fun member => Names member.1 system).map Prod.snd := by
  have each := List.forall₂_reverse_iff.mpr (ofEntries_eq_ok_iff.mp read)
  rw [List.reverse_reverse] at each
  exact lookup_of_read each system

/-- A member whose name is no numeral is in the way of every order, and nothing else is. -/
theorem fails_iff :
    (∃ error, ofEntries order = .error error) ↔ ∃ member ∈ order, NamesNone member.1 := by
  simp only [ofEntries_eq_error_iff, exists_mapM_eq_error_iff, readEntry_eq_error_iff,
    exists_and_left, exists_eq, and_true]

theorem IsOrder.exists_namesNone_iff (isOrder : IsOrder members order) :
    (∃ member ∈ order, NamesNone member.1) ↔ ∃ member ∈ members, NamesNone member.1 := by
  constructor
  · rintro ⟨member, present, unnamed⟩
    exact ⟨member, ((isOrder.mem_iff member).mp present).mem, unnamed⟩
  · rintro ⟨member, present, unnamed⟩
    obtain ⟨last, counts, same⟩ := exists_counts present
    exact ⟨last, (isOrder.mem_iff last).mpr counts, same ▸ unnamed⟩

/-! ### Reading in any order -/

/-- What can be told of a system: the type of a member that names it, or nothing without one. -/
inductive MayTell (members : List (String × Int64)) (system : SolarSystemId) :
    Option Int64 → Prop
  | known {member : String × Int64} (counts : Counts members member)
    (names : Names member.1 system) : MayTell members system (some member.2)
  | unknown (unnamed : ∀ member ∈ members, ¬Names member.1 system) : MayTell members system none

/-- All members that name a system, and count, have the same type. -/
def HasOneType (members : List (String × Int64)) (system : SolarSystemId) : Prop :=
  ∀ first second, Counts members first → Counts members second →
    Names first.1 system → Names second.1 system → first.2 = second.2

/-- What reading a text comes to that holds these members, in its order or any other. -/
structure Reading (content : String) (members : List (String × Int64)) : Prop where
  /-- The text is read in one of the orders. -/
  given : MayGive members (parse content)
  /-- Reading fails in every order, or in none: if a member names no system. -/
  fails_iff : ∀ result, MayGive members result →
    ((∃ error, result = .error error) ↔ ∃ member ∈ members, NamesNone member.1)
  /-- It fails at such a member. -/
  blames : ∀ error, MayGive members (.error error) →
    ∃ member ∈ members, NamesNone member.1 ∧ error = .invalidId member.1
  /-- Of each system the table tells something that can be told of it. -/
  tells : ∀ types, MayGive members (.ok types) →
    ∀ system, MayTell members system (types.get? system)
  /-- All that can be told of a system is told in some order. -/
  told : (∀ member ∈ members, ¬NamesNone member.1) →
    ∀ system answer, MayTell members system answer →
      ∃ types, MayGive members (.ok types) ∧ types.get? system = answer
  /-- All orders tell the same of a system if it has one type, and only then. -/
  same_iff : (∀ member ∈ members, ¬NamesNone member.1) → ∀ system,
    (∀ first second, MayGive members (.ok first) → MayGive members (.ok second) →
      first.get? system = second.get? system) ↔ HasOneType members system

/-- A text is read as the table of its members, in the order of their names. -/
theorem parse_eq {content : String} (isObject : IsObjectOf content members) :
    parse content = ofEntries (Table.ofEntries members).entries := by
  obtain ⟨documents, text, each⟩ := isObject
  have decoded : (Codec.table Codec.int64).decode content = .ok (.ofEntries members) := by
    rw [Codec.decode, text]
    refine Codec.read_table (each.imp ?_)
    rintro _ member ⟨literal, rfl, integer⟩
    exact ⟨rfl, by simp [Codec.int64, integer, Text.int64?_toInt]⟩
  rw [parse, decoded]

theorem mayTell_get? (isOrder : IsOrder members order) (read : ofEntries order = .ok types)
    (system : SolarSystemId) : MayTell members system (types.get? system) := by
  rw [get?_of_ofEntries read]
  cases found : order.reverse.find? fun member => Names member.1 system with
  | none =>
    refine .unknown fun member present names => ?_
    obtain ⟨last, counts, same⟩ := exists_counts present
    have among := List.mem_reverse.mpr ((isOrder.mem_iff last).mpr counts)
    have unnamed := List.find?_eq_none.mp found last among
    rw [same] at unnamed
    simp [names] at unnamed
  | some member =>
    have names : Names member.1 system := by simpa using List.find?_some found
    have among := List.mem_reverse.mp (List.mem_of_find?_eq_some found)
    exact .known ((isOrder.mem_iff member).mp among) names

theorem MayTell.eq_of_hasOneType {first second : Option Int64}
    (firstTells : MayTell members system first) (secondTells : MayTell members system second)
    (oneType : HasOneType members system) : first = second := by
  cases firstTells with
  | @known member counts names =>
    cases secondTells with
    | known counts' names' => exact congrArg some (oneType _ _ counts counts' names names')
    | unknown unnamed => exact absurd names (unnamed member counts.mem)
  | unknown unnamed =>
    cases secondTells with
    | @known member counts names => exact absurd names (unnamed member counts.mem)
    | unknown _ => rfl

theorem exists_types (named : ∀ member ∈ members, ¬NamesNone member.1)
    (isOrder : IsOrder members order) : ∃ types, ofEntries order = .ok types := by
  cases read : ofEntries order with
  | ok types => exact ⟨types, rfl⟩
  | error error =>
    obtain ⟨member, present, none⟩ :=
      isOrder.exists_namesNone_iff.mp (fails_iff.mp ⟨error, read⟩)
    exact absurd none (named member present)

theorem MayTell.exists_mayGive {answer : Option Int64} (mayTell : MayTell members system answer)
    (named : ∀ member ∈ members, ¬NamesNone member.1) :
    ∃ types, MayGive members (.ok types) ∧ types.get? system = answer := by
  obtain ⟨order, isOrder⟩ : ∃ order, IsOrder members order := ⟨_, isOrder_entries members⟩
  cases mayTell with
  | @known member counts names =>
    have last := isOrder.endingWith counts
    obtain ⟨types, read⟩ := exists_types named last
    refine ⟨types, ⟨_, last, read⟩, ?_⟩
    rw [get?_of_ofEntries read, List.reverse_concat,
      List.find?_cons_of_pos (by simpa using names), Option.map_some]
  | unknown unnamed =>
    obtain ⟨types, read⟩ := exists_types named isOrder
    refine ⟨types, ⟨order, isOrder, read⟩, ?_⟩
    have noType : HasOneType members system := by
      intro first _ counts _ names
      exact absurd names (unnamed first counts.mem)
    exact (mayTell_get? isOrder read system).eq_of_hasOneType (.unknown unnamed) noType

theorem same_iff (named : ∀ member ∈ members, ¬NamesNone member.1) (system : SolarSystemId) :
    (∀ first second, MayGive members (.ok first) → MayGive members (.ok second) →
      first.get? system = second.get? system) ↔ HasOneType members system := by
  constructor
  · intro same first second firstCounts secondCounts firstNames secondNames
    obtain ⟨firstTypes, firstGiven, firstTold⟩ :=
      (MayTell.known firstCounts firstNames).exists_mayGive named
    obtain ⟨secondTypes, secondGiven, secondTold⟩ :=
      (MayTell.known secondCounts secondNames).exists_mayGive named
    have agree := same firstTypes secondTypes firstGiven secondGiven
    rw [firstTold, secondTold] at agree
    exact Option.some.inj agree
  · rintro oneType first second ⟨firstOrder, firstIs, firstRead⟩ ⟨secondOrder, secondIs, secondRead⟩
    have firstTells := mayTell_get? firstIs firstRead system
    have secondTells := mayTell_get? secondIs secondRead system
    exact firstTells.eq_of_hasOneType secondTells oneType

/--
The text of an object is read in an order that nothing determines. In every order the reading fails
just if some name is no numeral, and otherwise tells of a system the type of a member that names it.
It can be the type of any such member, so the order does not count just if all of them have the same
type.
-/
theorem reading_of_object {content : String} (isObject : IsObjectOf content members) :
    Reading content members where
  given := ⟨_, isOrder_entries members, (parse_eq isObject).symm⟩
  fails_iff := by
    rintro _ ⟨order, isOrder, rfl⟩
    exact fails_iff.trans isOrder.exists_namesNone_iff
  blames := by
    rintro error ⟨order, isOrder, failed⟩
    obtain ⟨member, present, blamed⟩ := exists_of_mapM_eq_error (ofEntries_eq_error_iff.mp failed)
    exact ⟨member, ((isOrder.mem_iff member).mp present).mem, readEntry_eq_error_iff.mp blamed⟩
  tells := by
    rintro types ⟨order, isOrder, read⟩ system
    exact mayTell_get? isOrder read system
  told := fun named _ _ mayTell => mayTell.exists_mayGive named
  same_iff := same_iff

/-- A system with two names of different types, of which one is written twice. -/
theorem reading_of_object_twoNames :
    IsObjectOf (objectText [("30003070", 3802), ("01", 5), ("1", 6), ("01", 7)])
        [("30003070", 3802), ("01", 5), ("1", 6), ("01", 7)] ∧
      Reading (objectText [("30003070", 3802), ("01", 5), ("1", 6), ("01", 7)])
        [("30003070", 3802), ("01", 5), ("1", 6), ("01", 7)] :=
  ⟨isObjectOf_objectText _, reading_of_object (isObjectOf_objectText _)⟩

/-- Two names of a system, and two tables that the same text may be read as. -/
theorem types_by_order :
    ∃ first second : SunTypes,
      IsObjectOf (objectText [("0", 1), ("00", 2)]) [("0", 1), ("00", 2)] ∧
        MayGive [("0", 1), ("00", 2)] (.ok first) ∧ MayGive [("0", 1), ("00", 2)] (.ok second) ∧
        first.get? ⟨0⟩ = some 1 ∧ second.get? ⟨0⟩ = some 2 := by
  have isOrder : IsOrder [("0", 1), ("00", 2)] [("0", 1), ("00", 2)] :=
    isOrder_of_distinct (by decide)
  refine ⟨⟨[(⟨0⟩, 1), (⟨0⟩, 2)]⟩, ⟨[(⟨0⟩, 2), (⟨0⟩, 1)]⟩, isObjectOf_objectText _, ?_, ?_, rfl, rfl⟩
  · exact ⟨[("00", 2), ("0", 1)], isOrder.perm (.swap _ _ _), by decide⟩
  · exact ⟨[("0", 1), ("00", 2)], isOrder, by decide⟩

end Quartermaster.SunTypes

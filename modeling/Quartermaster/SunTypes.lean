import Quartermaster.Identifier

/-!
The types of the suns of solar systems, from an object with the numbers of systems as names.
-/

namespace Quartermaster

open Json (Codec Flaw)

inductive SunTypesError
  | unreadable (flaw : Flaw)
  | invalidId (key : String)
  deriving DecidableEq, Repr

def SunTypesError.idMessage (key : String) : String := "Invalid solar system id '" ++ key ++ "'"

/-- The types of suns by solar system; of several entries for a system the first one counts. -/
structure SunTypes where
  entries : List (SolarSystemId × Int64)
  deriving DecidableEq, Repr

namespace SunTypes

def empty : SunTypes := ⟨[]⟩

def get? (types : SunTypes) (system : SolarSystemId) : Option Int64 :=
  types.entries.lookup system

def readEntry (entry : String × Int64) : Except SunTypesError (SolarSystemId × Int64) :=
  match Text.readInt64? entry.1.toList with
  | some number => .ok (⟨number⟩, entry.2)
  | none => .error (.invalidId entry.1)

/--
The table of some names and numbers. Different names can stand for one system, as `1` and `01` do;
then the last of them in the order given counts.
-/
def ofEntries (entries : List (String × Int64)) : Except SunTypesError SunTypes :=
  (entries.mapM readEntry).map fun read => ⟨read.reverse⟩

/--
Reads a table. Of members with one name the last counts; the names are then taken in the order of
texts.
-/
def parse (content : String) : Except SunTypesError SunTypes :=
  match (Codec.table Codec.int64).decode content with
  | .error flaw => .error (.unreadable flaw)
  | .ok table => ofEntries table.entries

end SunTypes

end Quartermaster

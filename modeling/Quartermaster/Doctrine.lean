import Quartermaster.Identifier
import Quartermaster.Json.Fields

/-!
Doctrines: the ship compositions that fleets fly.
-/

namespace Quartermaster

open Json (Codec Fields)

structure Doctrine where
  id : DoctrineId
  name : String
  type : String
  description : String
  sigIds : List Int64
  deriving DecidableEq, Repr

namespace Doctrine

def fields : Fields Doctrine Doctrine :=
  Fields.done Doctrine.mk
    |>.required "id" (·.id) Identifier.codec
    |>.required "name" (·.name) .text
    |>.required "type" (·.type) .text
    |>.defaulted "description" (·.description) .text ""
    |>.defaulted "sig_ids" (·.sigIds) Codec.int64.list []

def codec : Codec Doctrine := fields.codec

end Doctrine

end Quartermaster

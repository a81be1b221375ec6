import Quartermaster.Json.Basic

/-!
Why no value can be read from a document, or from a text that should hold one.
-/

namespace Quartermaster.Json

inductive Flaw
  /-- The text is not JSON, nests too deeply, or has more items than the value takes. -/
  | malformed
  /-- The document has another shape than the value. -/
  | mismatch
  | missing (name : String)
  | duplicate (name : String)
  deriving DecidableEq, Repr

/-- Whether the text or the shape of the document is at fault. -/
def Flaw.category : Flaw → String
  | .malformed => "syntax"
  | _ => "data"

def Flaw.memberMessage? : Flaw → Option String
  | .missing name => some ("missing field `" ++ name ++ "`")
  | .duplicate name => some ("duplicate field `" ++ name ++ "`")
  | _ => none

/--
The flaw of a document that stands where another kind of value is asked for. A scalar is read
before it is refused, so a number beyond the doubles and a string that is no text are found first.
-/
def unexpected : Json → Flaw
  | .number n => if n.integer? = none ∧ n.real?.isNone then .malformed else .mismatch
  | .string none => .malformed
  | _ => .mismatch

/-- Containers that may be open at once in a text. -/
def nestingLimit : Nat := 127

end Quartermaster.Json

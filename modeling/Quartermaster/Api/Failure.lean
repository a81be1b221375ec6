import Quartermaster.Http.Request
import Quartermaster.Json.Value
import Quartermaster.Text.Blank

/-!
Why a call fails, and how that is said. A label says what was being done; the cause follows. For
production messages the request is not named in the cause of a bad status.
-/

namespace Quartermaster.Api

open Json (Flaw Value)

inductive Cause
  /-- A status that is no success; the request is named unless messages are for production. -/
  | status (status : Http.Status) (requestLine : Option String)
  | detail (status : Http.Status) (text : String)
  | undecodable (requestLine : String) (flaw : Flaw)
  | unsent (requestLine : String)
  | unbuildable
  deriving DecidableEq

def Cause.status? : Cause → Option Http.Status
  | .status received _ => some received
  | .detail received _ => some received
  | _ => none

/-- The wording of a cause, without what other parts of the system have to say to it. -/
def Cause.message : Cause → String
  | .status received requestLine => received.failureMessage requestLine
  | .detail _ text => text
  | .undecodable requestLine _ => "Error decoding response of " ++ requestLine
  | .unsent requestLine => requestLine ++ " could not be sent"
  | .unbuildable => "Request could not be built"

structure Failure where
  label : String
  cause : Cause
  deriving DecidableEq

def Failure.message (failure : Failure) : String := failure.label ++ ": " ++ failure.cause.message

/-! ### Details of error responses -/

/-- Where an entry of a validation report belongs: the last part of its place. -/
def placeOf? (entry : Value) : Option String := do
  let last ← (← (← entry.member? "loc").items?).getLast?
  return last.text?.getD last.compact

def entryMessage? (entry : Value) : Option String := do
  let message ← (← entry.member? "msg").text?
  match placeOf? entry with
  | some place => return place ++ ": " ++ message
  | none => return message

/--
The detail of an error response as a text: a text without the blanks around it, unless nothing is
left, or the messages of a validation report, unless there are none.
-/
def detailText? : Value → Option String
  | .string text =>
    let trimmed := Text.trim text.toList
    if trimmed.isEmpty then none else some (String.ofList trimmed)
  | .array entries =>
    match entries.filterMap entryMessage? with
    | [] => none
    | messages => some ("; ".intercalate messages)
  | _ => none

def detailOfBody? (body : String) : Option String := do
  detailText? (← (← Value.parse? body).member? "detail")

end Quartermaster.Api

import Quartermaster.Api.Exchange
import Quartermaster.Api.Failure
import Quartermaster.Json.Codec

/-!
Endpoints of the services behind the program, and how one is called. The status of a response is
looked at before its body: data is read only from a success.
-/

namespace Quartermaster.Api

open Json (Codec)

structure Service where
  base : String
  production : Bool
  deriving DecidableEq, Repr

/-- A request to a service, and how its answer is read. -/
structure Endpoint (α : Type) where
  /-- What a failure says was being done. -/
  label : String
  /-- The request, whose address is still short of that of the service. -/
  draft : Http.Draft
  /-- Whether an error response is asked for its own explanation. -/
  explains : Bool
  answer : Codec α

structure Network where
  reply : Http.Request → Http.Reply
  delay : Http.Request → Nat

def Network.down : Network := ⟨fun _ => .unreachable, fun _ => 0⟩

/-- The cause of failure for a response that is no success. -/
def refusal (service : Service) (explains : Bool) (request : Http.Request)
    (status : Http.Status) (body : String) : Cause :=
  match if explains then detailOfBody? body else none with
  | some text => .detail status text
  | none => .status status (if service.production then none else some request.line)

def Endpoint.receive (endpoint : Endpoint α) (service : Service) (request : Http.Request) :
    Http.Reply → Except Cause α
  | .unreachable => .error (.unsent request.line)
  | .response status body =>
    let text := Text.decodeBody body
    if status.isSuccess then
      match endpoint.answer.decode text with
      | .ok value => .ok value
      | .error flaw => .error (.undecodable request.line flaw)
    else .error (refusal service endpoint.explains request status text)

def Endpoint.request? (endpoint : Endpoint α) (service : Service) : Option Http.Request :=
  Http.Draft.build? { endpoint.draft with address := service.base ++ endpoint.draft.address }

def Endpoint.call (endpoint : Endpoint α) (service : Service) (network : Network) :
    Exchange Failure α :=
  match endpoint.request? service with
  | none => .fails ⟨endpoint.label, .unbuildable⟩
  | some request =>
    { sent := [request]
      elapsed := network.delay request
      outcome := (endpoint.receive service request (network.reply request)).mapError
        (⟨endpoint.label, ·⟩) }

end Quartermaster.Api

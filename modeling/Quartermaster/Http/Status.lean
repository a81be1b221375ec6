import Quartermaster.Text.Decimal

/-!
Status codes of HTTP responses and the reasons they stand for.
-/

namespace Quartermaster.Http

structure Status where
  code : Nat
  threeDigits : 100 ≤ code ∧ code < 1000
  deriving DecidableEq

namespace Status

def of? (code : Nat) : Option Status :=
  if h : 100 ≤ code ∧ code < 1000 then some ⟨code, h⟩ else none

def notFound : Status := ⟨404, by decide⟩

def isSuccess (status : Status) : Bool := 200 ≤ status.code && status.code < 300

/-- The registered reason of a code, in lower case. -/
def registeredReason? : Nat → Option String
  | 100 => some "continue"
  | 101 => some "switching protocols"
  | 102 => some "processing"
  | 103 => some "early hints"
  | 200 => some "ok"
  | 201 => some "created"
  | 202 => some "accepted"
  | 203 => some "non authoritative information"
  | 204 => some "no content"
  | 205 => some "reset content"
  | 206 => some "partial content"
  | 207 => some "multi-status"
  | 208 => some "already reported"
  | 226 => some "im used"
  | 300 => some "multiple choices"
  | 301 => some "moved permanently"
  | 302 => some "found"
  | 303 => some "see other"
  | 304 => some "not modified"
  | 305 => some "use proxy"
  | 307 => some "temporary redirect"
  | 308 => some "permanent redirect"
  | 400 => some "bad request"
  | 401 => some "unauthorized"
  | 402 => some "payment required"
  | 403 => some "forbidden"
  | 404 => some "not found"
  | 405 => some "method not allowed"
  | 406 => some "not acceptable"
  | 407 => some "proxy authentication required"
  | 408 => some "request timeout"
  | 409 => some "conflict"
  | 410 => some "gone"
  | 411 => some "length required"
  | 412 => some "precondition failed"
  | 413 => some "payload too large"
  | 414 => some "uri too long"
  | 415 => some "unsupported media type"
  | 416 => some "range not satisfiable"
  | 417 => some "expectation failed"
  | 418 => some "i'm a teapot"
  | 421 => some "misdirected request"
  | 422 => some "unprocessable entity"
  | 423 => some "locked"
  | 424 => some "failed dependency"
  | 425 => some "too early"
  | 426 => some "upgrade required"
  | 428 => some "precondition required"
  | 429 => some "too many requests"
  | 431 => some "request header fields too large"
  | 451 => some "unavailable for legal reasons"
  | 500 => some "internal server error"
  | 501 => some "not implemented"
  | 502 => some "bad gateway"
  | 503 => some "service unavailable"
  | 504 => some "gateway timeout"
  | 505 => some "http version not supported"
  | 506 => some "variant also negotiates"
  | 507 => some "insufficient storage"
  | 508 => some "loop detected"
  | 510 => some "not extended"
  | 511 => some "network authentication required"
  | _ => none

/-- The reason of a status; one that is not registered is named by its code. -/
def reason (status : Status) : String :=
  (registeredReason? status.code).getD ("status " ++ String.ofList (Text.natural status.code))

/--
Why a request failed. The message names the request only where a request line is given.
-/
def failureMessage (status : Status) (requestLine : Option String) : String :=
  requestLine.getD "Request" ++ " failed because " ++ status.reason

end Status

end Quartermaster.Http

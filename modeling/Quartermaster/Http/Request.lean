import Quartermaster.Http.Status
import Quartermaster.Text.Base64
import Quartermaster.Url.Basic

/-!
Requests and what comes back. A request is drafted from texts; it can be built if its URL is
absolute and its token can stand in a header (`Draft.build?`). Every request asks for JSON.
-/

namespace Quartermaster.Http

open Quartermaster.Text

inductive Method
  | get
  | post
  deriving DecidableEq, Repr

def Method.text : Method → String
  | .get => "GET"
  | .post => "POST"

inductive ContentType
  | json
  | plainText
  | gzip
  deriving DecidableEq, Repr

def ContentType.text : ContentType → String
  | .json => "application/json"
  | .plainText => "text/plain"
  | .gzip => "application/gzip"

structure Request where
  method : Method
  url : Url
  contentType : ContentType
  authorization : Option String
  body : Bytes
  deriving DecidableEq

namespace Request

def accepted : ContentType := .json

def line (request : Request) : String := request.method.text ++ " " ++ request.url.text

end Request

inductive Reply
  | unreachable
  | response (status : Status) (body : Bytes)
  deriving DecidableEq

structure Draft where
  method : Method
  address : String
  /-- Named values for the query; without a list the query is left alone. -/
  query : Option (List (String × String))
  token : Option String
  contentType : ContentType
  body : Bytes
  deriving DecidableEq

namespace Draft

def get (address : String) : Draft := ⟨.get, address, none, none, .json, []⟩

def post (address : String) (contentType : ContentType) (body : Bytes) : Draft :=
  ⟨.post, address, none, none, contentType, body⟩

def withQuery (draft : Draft) (pairs : List (String × String)) : Draft :=
  { draft with query := some pairs }

def withToken (draft : Draft) (token : String) : Draft := { draft with token := some token }

/-- May stand in a header: no control character except the tab. -/
def isHeaderText (text : String) : Bool :=
  text.toList.all fun c => c = '\t' || (0x20 ≤ c.toNat && c.toNat ≠ 0x7F)

/-- The text that a percent-encoded part stands for, if it is UTF-8. -/
def plainText? (part : String) : Option String :=
  decodeUtf8? (Url.percentDecode part.toList)

def credentials? (url : Url) : Option String := do
  let name ← plainText? url.userName
  let password := url.password.bind plainText?
  guard (name ≠ "" ∨ password.isSome)
  let pair := name ++ ":" ++ password.getD ""
  return "Basic " ++ String.ofList (base64 (utf8 pair.toList))

/--
The request of a draft, unless its address is no absolute URL with a host or its token cannot stand
in a header. Credentials of the URL go into the header and count before the token.
-/
def build? (draft : Draft) : Option Request := do
  let address ← Url.parse? draft.address
  guard (draft.token.all isHeaderText)
  let credentials := credentials? address
  let url := if credentials.isSome then address.withoutUser else address
  return {
    method := draft.method
    url := match draft.query with
      | some pairs => url.addQuery pairs
      | none => url
    contentType := draft.contentType
    authorization := credentials <|> draft.token.map ("Bearer " ++ ·)
    body := draft.body }

end Draft

end Quartermaster.Http

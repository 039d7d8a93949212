import Warrant.Authority.Body
import Warrant.Certificate.Request
import Warrant.Config
import Warrant.Json.Tellable
import Warrant.Url

namespace Warrant

structure HttpRequest where
  method : String
  url : String
  body : Option Bytes
  deriving DecidableEq

namespace HttpRequest

def target? (r : HttpRequest) : Option String :=
  (Url.read? r.url).map Url.asked

def userAgent : String := "tessera-trust/0.4.0"

def contentType? (r : HttpRequest) : Option String :=
  r.body.map fun _ => "application/json"

end HttpRequest

structure HttpResponse where
  status : Nat
  body : Bytes
  deriving DecidableEq

structure HttpAuthority where
  baseUrl : String
  deriving DecidableEq

namespace HttpAuthority

def make (url : String) : Except Error HttpAuthority :=
  match Url.read? url with
  | none => .error (.config (.url url))
  | some read =>
    if read.scheme = "http" ∨ read.scheme = "https" then .ok ⟨Text.trimEndBy (· = '/') url⟩
    else .error (.config (.urlScheme read.scheme))

def ofConfig (config : Config) : Except Error HttpAuthority :=
  make config.authorityUrl

def endpoint (a : HttpAuthority) : String :=
  a.baseUrl

def post {α : Type} [Record α] (a : HttpAuthority) (path : String) (body : α) : HttpRequest :=
  ⟨"POST", a.baseUrl ++ path, some (Record.bytes body)⟩

def signing (a : HttpAuthority) (request : SigningRequest) : HttpRequest :=
  a.post "/csr" request

def health (a : HttpAuthority) : HttpRequest :=
  ⟨"GET", a.baseUrl ++ "/health", none⟩

section

variable [Scheme]

def claim (a : HttpAuthority) (requester : Requester) (query : ClaimQuery) (now : Int64) :
    HttpRequest :=
  match query with
  | .resolve target => a.post "/resolve" (requester.resolveBody target now)
  | .named claim destination => a.post "/claim/v2" (requester.claimBody claim destination now)

def derelicts (a : HttpAuthority) (requester : Requester) (now : Int64) : HttpRequest :=
  a.post "/thehose" (requester.derelictBody now)

end

end HttpAuthority

namespace HttpResponse

def shownBody (r : HttpResponse) : String :=
  Text.trim (Text.ofUtf8Lossy r.body)

/-- A document is expected with a status of success; with any other the body tells what is wrong. -/
def read {α : Type} (r : HttpResponse) (decode : Json → Option α) : Except Error α :=
  if 200 ≤ r.status ∧ r.status ≤ 299 then
    match (Json.read? r.body).bind decode with
    | some a => .ok a
    | none => .error (.authorityUnavailable .reply)
  else if r.status = 401 ∨ r.status = 403 then
    .error (.authorityUnavailable (.rejected r.status r.shownBody))
  else .error (.authorityUnavailable (.failed r.status r.shownBody))

def soleMember? {α : Type} (name : String) (decode : Json → Option α) (j : Json) : Option α := do
  match ← j.record? [name] with
  | [value] => Json.field decode value
  | _ => none

def claim (r : HttpResponse) : Except Error Claim := do
  let token ← r.read (soleMember? "token" Json.text?)
  match Record.unmarshal token with
  | .ok claim => return claim
  | .error e => throw (.authorityUnavailable (.unusableClaim e.message))

def certificate (r : HttpResponse) : Except Error Certificate :=
  r.read (soleMember? "certificate" Certificate.ofJson?)

def derelicts (r : HttpResponse) : Except Error DerelictReply :=
  r.read DerelictReply.ofJson?

def health (r : HttpResponse) : Except Error Unit :=
  r.read fun j => if j.isTellable then some () else none

end HttpResponse

def HttpRequest.exchange {α : Type} (r : HttpRequest) (read : HttpResponse → Except Error α)
    (response : Option HttpResponse) : Except Error α :=
  match r.target?, response with
  | none, _ => .error (.authorityUnavailable .noUrl)
  | some _, none => .error (.authorityUnavailable .unreachable)
  | some _, some response => read response

end Warrant

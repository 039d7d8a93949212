import Warrant.Claim
import Warrant.Key.Encoding

namespace Warrant

inductive EntityKind
  | service
  | host
  | user
  deriving DecidableEq

namespace EntityKind

def name : EntityKind → String
  | .service => "service"
  | .host => "host"
  | .user => "user"

def ofName? (name : String) : Option EntityKind :=
  [service, host, user].find? (·.name == name)

def ofJson? : Json → Option EntityKind
  | .object [(written, .null)] => (Json.Escape.text? written).bind ofName?
  | j => j.text?.bind ofName?

end EntityKind

structure Certificate where
  entity : String
  kind : EntityKind
  host : String
  key : Bytes
  serial : UInt64
  validAfter : Int64
  validBefore : Int64
  tags : Dictionary String
  signature : Bytes
  deriving DecidableEq

namespace Certificate

def lifetime : Int64 := 72000

def launchRequestTag : String := "LaunchRequest"

def bootstrapTag : String := "BootstrapCertificate"

def toJson (c : Certificate) : Json :=
  .object <|
    [Json.member "entity_name" (.ofText c.entity), Json.member "entity_type" (.ofText c.kind.name),
      Json.member "host" (.ofText c.host), Json.member "key" (.ofBytes c.key),
      Json.member "serial" (.ofUInt64 c.serial), Json.member "valid_after" (.ofInt64 c.validAfter),
      Json.member "valid_before" (.ofInt64 c.validBefore),
      Json.member "tags" (.ofDictionary .ofText c.tags)] ++
    Json.memberUnless c.signature.isEmpty "signature" (.ofBytes c.signature)

def ofJson? (j : Json) : Option Certificate := do
  match ← j.record? ["entity_name", "entity_type", "host", "key", "serial", "valid_after",
    "valid_before", "tags", "signature"] with
  | [entity, kind, host, key, serial, validAfter, validBefore, tags, signature] =>
    return {
      entity := ← Json.field Json.text? entity
      kind := ← Json.fieldOr .service EntityKind.ofJson? kind
      host := ← Json.fieldOr "" Json.text? host
      key := ← Json.fieldOr [] Json.bytes? key
      serial := ← Json.fieldOr 0 Json.uint64? serial
      validAfter := ← Json.fieldOr 0 Json.int64? validAfter
      validBefore := ← Json.fieldOr 0 Json.int64? validBefore
      tags := ← Json.fieldOr ∅ (Json.dictionary? Json.text?) tags
      signature := ← Json.fieldOr [] Json.bytes? signature }
  | _ => none

instance : Signed Certificate where
  toJson := toJson
  ofJson? := ofJson?
  signature := Certificate.signature
  withSignature c s := { c with signature := s }

/-- A certificate that has to be exchanged for a regular one before use. -/
def isBootstrap (c : Certificate) : Bool :=
  c.tags.contains launchRequestTag && c.tags.contains bootstrapTag

def isValidAt (c : Certificate) (now : Int64) : Bool :=
  decide (c.validAfter ≤ now + clockSkew) && decide (now - clockSkew ≤ c.validBefore)

variable [Scheme]

def issue (entity : String) (kind : EntityKind) (host : String) (tags : Dictionary String)
    (key : PrivateKey) (serial : UInt64) (now : Int64) : Certificate where
  entity
  kind
  host
  key := key.publicKey.encode
  serial
  validAfter := now - clockSkew
  validBefore := now + lifetime
  tags
  signature := []

def publicKey (c : Certificate) : Except Error PublicKey :=
  PublicKey.read c.key

def check (c : Certificate) (usable : List PublicKey) (now : Int64) : Except Error Unit :=
  if !c.isValidAt now then .error (.signature (.outsideWindow c.entity c.validAfter c.validBefore))
  else if !Signed.isSignedByAny c usable then .error (.signature (.notByAuthority c.entity))
  else .ok ()

def checkSignedBy (c signer : Certificate) : Except Error Unit := do
  let key ← signer.publicKey
  if Signed.isSignedBy c key then .ok () else .error (.signature (.notBySigner signer.entity))

end Certificate

structure Credential where
  certificate : Certificate
  key : PrivateKey
  deriving DecidableEq

end Warrant

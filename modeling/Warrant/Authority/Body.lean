import Warrant.Identity
import Warrant.Derelict

namespace Warrant

structure ResolveBody where
  entity : String
  target : String
  implicitClaims : List String
  certificate : Option Certificate
  createdAt : Int64
  expiresAt : Int64
  signature : Bytes
  deriving DecidableEq

structure ClaimBody where
  entity : String
  claim : String
  destination : String
  implicitClaims : List String
  certificate : Option Certificate
  createdAt : Int64
  expiresAt : Int64
  signature : Bytes
  deriving DecidableEq

structure DerelictBody where
  entity : String
  createdAt : Int64
  signature : Bytes
  deriving DecidableEq

def requestLifetime : Int64 := 60

def claimMembers (implicitClaims : List String) (certificate : Option Certificate)
    (createdAt expiresAt : Int64) (signature : Bytes) : List (Bytes × Json) :=
  Json.memberUnless implicitClaims.isEmpty "implicit_claims" (.ofList .ofText implicitClaims) ++
  Json.memberUnless certificate.isNone "certificate" (.ofOption Certificate.toJson certificate) ++
  [Json.member "ctime" (.ofInt64 createdAt), Json.member "etime" (.ofInt64 expiresAt)] ++
  Json.memberUnless signature.isEmpty "signature" (.ofBytes signature)

namespace ResolveBody

def toJson (b : ResolveBody) : Json :=
  .object <|
    [Json.member "entity_name" (.ofText b.entity),
      Json.member "requested_entity" (.ofText b.target)] ++
    claimMembers b.implicitClaims b.certificate b.createdAt b.expiresAt b.signature

def ofJson? (j : Json) : Option ResolveBody := do
  match ← j.record? ["entity_name", "requested_entity", "implicit_claims", "certificate", "ctime",
    "etime", "signature"] with
  | [entity, target, implicitClaims, certificate, createdAt, expiresAt, signature] =>
    return {
      entity := ← Json.field Json.text? entity
      target := ← Json.field Json.text? target
      implicitClaims := ← Json.fieldOr [] (Json.list? Json.text?) implicitClaims
      certificate := ← Json.fieldOr none (Json.option? Certificate.ofJson?) certificate
      createdAt := ← Json.field Json.int64? createdAt
      expiresAt := ← Json.field Json.int64? expiresAt
      signature := ← Json.fieldOr [] Json.bytes? signature }
  | _ => none

instance : Signed ResolveBody where
  toJson := toJson
  ofJson? := ofJson?
  signature := ResolveBody.signature
  withSignature b s := { b with signature := s }

end ResolveBody

namespace ClaimBody

def toJson (b : ClaimBody) : Json :=
  .object <|
    [Json.member "entity_name" (.ofText b.entity), Json.member "claim" (.ofText b.claim),
      Json.member "destination" (.ofText b.destination)] ++
    claimMembers b.implicitClaims b.certificate b.createdAt b.expiresAt b.signature

def ofJson? (j : Json) : Option ClaimBody := do
  match ← j.record? ["entity_name", "claim", "destination", "implicit_claims", "certificate",
    "ctime", "etime", "signature"] with
  | [entity, claim, destination, implicitClaims, certificate, createdAt, expiresAt, signature] =>
    return {
      entity := ← Json.field Json.text? entity
      claim := ← Json.field Json.text? claim
      destination := ← Json.field Json.text? destination
      implicitClaims := ← Json.fieldOr [] (Json.list? Json.text?) implicitClaims
      certificate := ← Json.fieldOr none (Json.option? Certificate.ofJson?) certificate
      createdAt := ← Json.field Json.int64? createdAt
      expiresAt := ← Json.field Json.int64? expiresAt
      signature := ← Json.fieldOr [] Json.bytes? signature }
  | _ => none

instance : Signed ClaimBody where
  toJson := toJson
  ofJson? := ofJson?
  signature := ClaimBody.signature
  withSignature b s := { b with signature := s }

end ClaimBody

namespace DerelictBody

def toJson (b : DerelictBody) : Json :=
  .object <|
    [Json.member "entity_name" (.ofText b.entity), Json.member "ctime" (.ofInt64 b.createdAt)] ++
    Json.memberUnless b.signature.isEmpty "signature" (.ofBytes b.signature)

def ofJson? (j : Json) : Option DerelictBody := do
  match ← j.record? ["entity_name", "ctime", "signature"] with
  | [entity, createdAt, signature] =>
    return {
      entity := ← Json.field Json.text? entity
      createdAt := ← Json.field Json.int64? createdAt
      signature := ← Json.fieldOr [] Json.bytes? signature }
  | _ => none

instance : Signed DerelictBody where
  toJson := toJson
  ofJson? := ofJson?
  signature := DerelictBody.signature
  withSignature b s := { b with signature := s }

end DerelictBody

namespace Requester

variable [Scheme]

def resolveBody (r : Requester) (target : String) (now : Int64) : ResolveBody :=
  Signed.sign r.key
    { entity := r.entity
      target
      implicitClaims := r.implicitClaims
      certificate := r.certificate
      createdAt := now
      expiresAt := now + requestLifetime
      signature := [] }

def claimBody (r : Requester) (claim destination : String) (now : Int64) : ClaimBody :=
  Signed.sign r.key
    { entity := r.entity
      claim
      destination
      implicitClaims := r.implicitClaims
      certificate := r.certificate
      createdAt := now
      expiresAt := now + requestLifetime
      signature := [] }

def derelictBody (r : Requester) (now : Int64) : DerelictBody :=
  Signed.sign r.key { entity := r.entity, createdAt := now, signature := [] }

end Requester

end Warrant

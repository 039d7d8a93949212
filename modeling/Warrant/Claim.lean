import Warrant.Record
import Warrant.Text

namespace Warrant

def clockSkew : Int64 := 60

structure Claim where
  kind : String
  validAfter : Int64
  validBefore : Int64
  entity : String
  grants : List String
  destination : String
  signature : Bytes
  deriving DecidableEq

namespace Claim

def currentKind : String := "tessera.claim.v1"

def toJson (c : Claim) : Json :=
  .object <|
    [Json.member "ct" (.ofText c.kind), Json.member "va" (.ofInt64 c.validAfter),
      Json.member "vb" (.ofInt64 c.validBefore), Json.member "e" (.ofText c.entity),
      Json.member "c" (.ofList .ofText c.grants), Json.member "d" (.ofText c.destination)] ++
    Json.memberUnless c.signature.isEmpty "s" (.ofBytes c.signature)

def ofJson? (j : Json) : Option Claim := do
  match ← j.record? ["ct", "va", "vb", "e", "c", "d", "s"] with
  | [kind, validAfter, validBefore, entity, grants, destination, signature] =>
    return {
      kind := ← Json.fieldOr "" Json.text? kind
      validAfter := ← Json.fieldOr 0 Json.int64? validAfter
      validBefore := ← Json.fieldOr 0 Json.int64? validBefore
      entity := ← Json.fieldOr "" Json.text? entity
      grants := ← Json.fieldOr [] (Json.list? Json.text?) grants
      destination := ← Json.fieldOr "" Json.text? destination
      signature := ← Json.fieldOr [] Json.bytes? signature }
  | _ => none

instance : Signed Claim where
  toJson := toJson
  ofJson? := ofJson?
  signature := Claim.signature
  withSignature c s := { c with signature := s }

def make (entity : String) (grants : List String) (destination : String)
    (validAfter ttl : Int64) : Claim where
  kind := currentKind
  validAfter
  validBefore := validAfter + ttl
  entity
  grants
  destination
  signature := []

def holds (c : Claim) (name : String) : Bool :=
  Text.containsIgnoringCase c.grants name

def holdsAny (c : Claim) (names : List String) : Bool :=
  names.any c.holds

variable [Scheme]

def validate (c : Claim) (usable : List PublicKey) (now : Int64) : Except Invalidity Unit :=
  if now + clockSkew < c.validAfter then .error .futureToken
  else if c.validBefore < now - clockSkew then .error .expiredToken
  else if Signed.isSignedByAny c usable then .ok ()
  else .error .invalidSignature

def inspect (c : Claim) (usable : List PublicKey) (now : Int64)
    (destinations required : List String) : Except Error Unit := do
  match c.validate usable now with
  | .error reason => throw (.invalidToken reason)
  | .ok () => pure ()
  if !Text.containsIgnoringCase destinations c.destination then
    throw (.wrongDestination c.destination destinations)
  if !c.holdsAny required then
    throw (.noCommonClaims c.grants required)

def check (c : Claim) (usable : List PublicKey) (now : Int64) (destination : String)
    (required : List String) : Except Error Unit :=
  c.inspect usable now [destination] required

end Claim

end Warrant

import Warrant.Certificate

namespace Warrant

structure SigningRequest where
  certificate : Certificate
  signingCertificate : Certificate
  launchRequest : Option String
  signature : Bytes
  deriving DecidableEq

namespace SigningRequest

def toJson (r : SigningRequest) : Json :=
  .object <|
    [Json.member "certificate" r.certificate.toJson,
      Json.member "signing_certificate" r.signingCertificate.toJson] ++
    Json.memberUnless r.launchRequest.isNone "launch_request" (.ofOption .ofText r.launchRequest) ++
    Json.memberUnless r.signature.isEmpty "signature" (.ofBytes r.signature)

def ofJson? (j : Json) : Option SigningRequest := do
  match ← j.record? ["certificate", "signing_certificate", "launch_request", "signature"] with
  | [certificate, signingCertificate, launchRequest, signature] =>
    return {
      certificate := ← Json.field Certificate.ofJson? certificate
      signingCertificate := ← Json.field Certificate.ofJson? signingCertificate
      launchRequest := ← Json.fieldOr none (Json.option? Json.text?) launchRequest
      signature := ← Json.fieldOr [] Json.bytes? signature }
  | _ => none

instance : Signed SigningRequest where
  toJson := toJson
  ofJson? := ofJson?
  signature := SigningRequest.signature
  withSignature r s := { r with signature := s }

variable [Scheme]

def make (certificate signingCertificate : Certificate) (key : PrivateKey)
    (launchRequest : Option String) : SigningRequest :=
  Signed.sign key { certificate, signingCertificate, launchRequest, signature := [] }

def verify (r : SigningRequest) : Except Error Unit := do
  let key ← r.signingCertificate.publicKey
  if Signed.isSignedBy r key then .ok () else .error (.signature .request)

end SigningRequest

end Warrant

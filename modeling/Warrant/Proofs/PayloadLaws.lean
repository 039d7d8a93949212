import Warrant.Proofs.RecordLaws

namespace Warrant

open Json

inductive SignedRecord
  | claim (c : Claim)
  | certificate (c : Certificate)
  | disableMessage (m : DisableMessage)
  | signingRequest (r : SigningRequest)
  | resolveBody (b : ResolveBody)
  | claimBody (b : ClaimBody)
  | derelictBody (b : DerelictBody)
  deriving DecidableEq

namespace SignedRecord

def toJson : SignedRecord → Json
  | .claim c => c.toJson
  | .certificate c => c.toJson
  | .disableMessage m => m.toJson
  | .signingRequest r => r.toJson
  | .resolveBody b => b.toJson
  | .claimBody b => b.toJson
  | .derelictBody b => b.toJson

def signature : SignedRecord → Bytes
  | .claim c => Signed.signature c
  | .certificate c => Signed.signature c
  | .disableMessage m => Signed.signature m
  | .signingRequest r => Signed.signature r
  | .resolveBody b => Signed.signature b
  | .claimBody b => Signed.signature b
  | .derelictBody b => Signed.signature b

def withSignature (r : SignedRecord) (s : Bytes) : SignedRecord :=
  match r with
  | .claim c => .claim (Signed.withSignature c s)
  | .certificate c => .certificate (Signed.withSignature c s)
  | .disableMessage m => .disableMessage (Signed.withSignature m s)
  | .signingRequest r => .signingRequest (Signed.withSignature r s)
  | .resolveBody b => .resolveBody (Signed.withSignature b s)
  | .claimBody b => .claimBody (Signed.withSignature b s)
  | .derelictBody b => .derelictBody (Signed.withSignature b s)

def payload : SignedRecord → Bytes
  | .claim c => Signed.payload c
  | .certificate c => Signed.payload c
  | .disableMessage m => Signed.payload m
  | .signingRequest r => Signed.payload r
  | .resolveBody b => Signed.payload b
  | .claimBody b => Signed.payload b
  | .derelictBody b => Signed.payload b

def isSignedBy [Scheme] (r : SignedRecord) (key : PublicKey) : Bool :=
  match r with
  | .claim c => Signed.isSignedBy c key
  | .certificate c => Signed.isSignedBy c key
  | .disableMessage m => Signed.isSignedBy m key
  | .signingRequest r => Signed.isSignedBy r key
  | .resolveBody b => Signed.isSignedBy b key
  | .claimBody b => Signed.isSignedBy b key
  | .derelictBody b => Signed.isSignedBy b key

/-- The record that is written as the tree: each type but the last has a member that only it has. -/
def ofJson? (j : Json) : Option SignedRecord :=
  if j.mentions "ct" then (Claim.ofJson? j).map .claim
  else if j.mentions "serial" then (Certificate.ofJson? j).map .certificate
  else if j.mentions "is_disabled" then (DisableMessage.ofJson? j).map .disableMessage
  else if j.mentions "signing_certificate" then (SigningRequest.ofJson? j).map .signingRequest
  else if j.mentions "requested_entity" then (ResolveBody.ofJson? j).map .resolveBody
  else if j.mentions "claim" then (ClaimBody.ofJson? j).map .claimBody
  else (DerelictBody.ofJson? j).map .derelictBody

theorem plain_toJson (r : SignedRecord) : Plain r.toJson := by
  cases r with
  | claim c => exact Claim.codec.plain c
  | certificate c => exact Certificate.codec.plain c
  | disableMessage m => exact DisableMessage.codec.plain m
  | signingRequest r => exact SigningRequest.codec.plain r
  | resolveBody b => exact ResolveBody.codec.plain b
  | claimBody b => exact ClaimBody.codec.plain b
  | derelictBody b => exact DerelictBody.codec.plain b

theorem ofJson?_arrange (a : Arrangement) (r : SignedRecord) :
    ofJson? (r.toJson.arrange a) = some r := by
  cases r with
  | claim c =>
    simp [ofJson?, toJson, mentions_of_eq a c.toJson_eq_ofFields, Claim.fields,
      Claim.codec.read_arrange]
  | certificate c =>
    simp [ofJson?, toJson, mentions_of_eq a c.toJson_eq_ofFields, Certificate.fields,
      Certificate.codec.read_arrange]
  | disableMessage m =>
    simp [ofJson?, toJson, mentions_of_eq a m.toJson_eq_ofFields, DisableMessage.fields,
      DisableMessage.codec.read_arrange]
  | signingRequest r =>
    simp [ofJson?, toJson, mentions_of_eq a r.toJson_eq_ofFields, SigningRequest.fields,
      SigningRequest.codec.read_arrange]
  | resolveBody b =>
    simp [ofJson?, toJson, mentions_of_eq a b.toJson_eq_ofFields, ResolveBody.fields, claimFields,
      ResolveBody.codec.read_arrange]
  | claimBody b =>
    simp [ofJson?, toJson, mentions_of_eq a b.toJson_eq_ofFields, ClaimBody.fields, claimFields,
      ClaimBody.codec.read_arrange]
  | derelictBody b =>
    simp [ofJson?, toJson, mentions_of_eq a b.toJson_eq_ofFields, DerelictBody.fields,
      DerelictBody.codec.read_arrange]

theorem canonical_injective {r s : SignedRecord} (h : r.toJson.canonical = s.toJson.canonical) :
    r = s := by
  rw [← arrange_byName, ← arrange_byName] at h
  simpa [ofJson?_arrange] using congrArg ofJson? h

theorem payload_eq (r : SignedRecord) :
    r.payload = (r.withSignature []).toJson.canonical.write := by
  cases r <;> rfl

@[simp] theorem payload_withSignature (r : SignedRecord) (s : Bytes) :
    (r.withSignature s).payload = r.payload := by
  cases r <;> rfl

theorem isSignedBy_withSignature [Scheme] (r : SignedRecord) (s : Bytes) (key : PublicKey) :
    (r.withSignature s).isSignedBy key = key.verifies r.payload s := by
  cases r <;> rfl

@[simp] theorem withSignature_withSignature (r : SignedRecord) (s t : Bytes) :
    (r.withSignature s).withSignature t = r.withSignature t := by
  cases r <;> rfl

@[simp] theorem withSignature_signature (r : SignedRecord) : r.withSignature r.signature = r := by
  cases r <;> rfl

theorem unsigned_eq_of_payload_eq {r s : SignedRecord} (h : r.payload = s.payload) :
    r.withSignature [] = s.withSignature [] := by
  rw [payload_eq, payload_eq] at h
  exact canonical_injective (write_injective (plain_canonical (plain_toJson _))
    (plain_canonical (plain_toJson _)) h)

theorem payload_eq_iff (r s : SignedRecord) :
    r.payload = s.payload ↔ s = r.withSignature s.signature := by
  constructor
  · intro h
    have unsigned := unsigned_eq_of_payload_eq h
    have signed := congrArg (withSignature · s.signature) unsigned
    simpa using signed.symm
  · intro h
    rw [h, payload_withSignature]

/-- Records that are signed as the same bytes are of one type and differ in the signature at most.
So a signature that is good for the bytes of one record alone is accepted for no other record. -/
theorem payload_separates [Scheme] (a b : SignedRecord) :
    (a.payload = b.payload ↔ b = a.withSignature b.signature) ∧
      ∀ (key : PublicKey) (s : Bytes), (∀ p, key.verifies p s = true → p = a.payload) →
        (b.withSignature s).isSignedBy key = true → b = a.withSignature b.signature := by
  refine ⟨payload_eq_iff a b, ?_⟩
  intro key s only accepted
  rw [isSignedBy_withSignature] at accepted
  exact (payload_eq_iff a b).1 (only _ accepted).symm

end SignedRecord

end Warrant

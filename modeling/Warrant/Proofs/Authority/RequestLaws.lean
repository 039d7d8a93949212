import Warrant.Authority.Http
import Warrant.Proofs.ClaimLaws
import Warrant.Proofs.RenewalLaws
import Warrant.Proofs.SignatureLaws

namespace Warrant

namespace HttpRequest

variable {α : Type} [Signed α] [Scheme]

/-- A record read off the body says what is meant, under a signature of the key. -/
def Brings (r : HttpRequest) (key : PublicKey) (meant : α) : Prop :=
  ∃ body sent, r.body = some body ∧ Record.ofBytes? body = some sent ∧
    Signed.unsigned sent = meant ∧ Signed.isSignedBy sent key = true

theorem brings_post [LawfulSigned α] (correct : Scheme.Correct)
    (codec : Json.Codec (Record.toJson (α := α)) Record.ofJson?) (a : HttpAuthority)
    (path : String) (key : PrivateKey) {meant : α} (bare : Signed.unsigned meant = meant) :
    (a.post path (Signed.sign key meant)).Brings key.publicKey meant := by
  refine ⟨_, _, rfl, Record.ofBytes?_bytes codec _, ?_, Signed.isSignedBy_sign correct key meant⟩
  rw [Signed.unsigned_sign, bare]

end HttpRequest

theorem Moment.toInt_add_requestLifetime {now : Int64} (told : isTellable now.toInt = true) :
    (now + requestLifetime).toInt = now.toInt + 60 :=
  toInt_add_clockSkew (isModerate_of_isTellable told)

namespace SigningRequest

variable [Scheme]

theorem verify_make (correct : Scheme.Correct) (certificate : Certificate) {signer : Certificate}
    {key : PrivateKey} (certified : signer.key = key.publicKey.encode)
    (launchRequest : Option String) :
    (make certificate signer key launchRequest).verify = .ok () := by
  have read : signer.publicKey = .ok key.publicKey := by
    rw [Certificate.publicKey, PublicKey.read, certified,
      PublicKey.decode?_encode (correct.isKey_publicKey key)]
  have signed : Signed.isSignedBy (make certificate signer key launchRequest) key.publicKey :=
    Signed.isSignedBy_sign correct key _
  have same : (make certificate signer key launchRequest).signingCertificate = signer := rfl
  simp only [verify, same, read]
  exact if_pos signed

end SigningRequest

/-- What the authority gets from a requester that asks at some time. -/
structure Requester.Reaches [Scheme] (r : Requester) (a : HttpAuthority) (now : Int64) : Prop where
  resolve : ∀ target, (a.claim r (.resolve target) now).Brings r.key.publicKey
    ({ entity := r.entity
       target
       implicitClaims := r.implicitClaims
       certificate := r.certificate
       createdAt := now
       expiresAt := now + requestLifetime
       signature := [] } : ResolveBody)
  named : ∀ claim destination, (a.claim r (.named claim destination) now).Brings r.key.publicKey
    ({ entity := r.entity
       claim
       destination
       implicitClaims := r.implicitClaims
       certificate := r.certificate
       createdAt := now
       expiresAt := now + requestLifetime
       signature := [] } : ClaimBody)
  derelicts : (a.derelicts r now).Brings r.key.publicKey
    ({ entity := r.entity, createdAt := now, signature := [] } : DerelictBody)
  lifetime : Moment.isTellable now.toInt = true →
    (now + requestLifetime).toInt = now.toInt + 60
  signing : ∀ certificate signer key launchRequest, signer.key = PublicKey.encode key.publicKey →
    ∃ body, (a.signing (.make certificate signer key launchRequest)).body = some body ∧
      ∃ sent : SigningRequest, Record.ofBytes? body = some sent ∧
        sent = .make certificate signer key launchRequest ∧ sent.verify = .ok ()

theorem Requester.reaches [Scheme] (correct : Scheme.Correct) (r : Requester) (a : HttpAuthority)
    (now : Int64) : r.Reaches a now where
  resolve _ := HttpRequest.brings_post correct ResolveBody.codec a "/resolve" r.key rfl
  named _ _ := HttpRequest.brings_post correct ClaimBody.codec a "/claim/v2" r.key rfl
  derelicts := HttpRequest.brings_post correct DerelictBody.codec a "/thehose" r.key rfl
  lifetime := Moment.toInt_add_requestLifetime
  signing certificate _ _ launchRequest certified :=
    ⟨_, rfl, _, Record.ofBytes?_bytes SigningRequest.codec _, rfl,
      SigningRequest.verify_make correct certificate certified launchRequest⟩

def Requester.certified : Requester :=
  ⟨"bob", .ofTwos, some .bootstrap, ["on \"call\""]⟩

theorem Requester.certified_reaches :
    let _ := standard.completion
    Scheme.Correct ∧ certified.Reaches ⟨"http://127.0.0.1:16746"⟩ 1700000000 := by
  intro _
  have correct : Scheme.Correct := Scheme.correct_completion_standard
  exact ⟨correct, reaches correct certified ⟨"http://127.0.0.1:16746"⟩ 1700000000⟩

end Warrant

import Warrant.Ed25519
import Warrant.Proofs.RecordLaws

namespace Warrant

structure Scheme.Correct [Scheme] : Prop where
  isKey_publicKey : ∀ key : PrivateKey, Scheme.isKey key.publicKey = true
  verifies_sign : ∀ (key : PrivateKey) (payload : Bytes),
    key.publicKey.verifies payload (key.sign payload) = true

/-! ### Completions -/

namespace Scheme

open Classical in
/-- The scheme that accepts, besides, all public keys and signatures that it makes itself. -/
@[reducible]
noncomputable def completion (s : Scheme) : Scheme where
  publicKey := s.publicKey
  isKey key := s.isKey key || decide (∃ k, s.publicKey k = key)
  sign := s.sign
  verify key payload signature := s.verify key payload signature ||
    decide (∃ k, s.publicKey k = key ∧ s.sign k payload = signature)
  digest := s.digest

variable {s : Scheme}

theorem publicKey_completion (key : PrivateKey) :
    @PrivateKey.publicKey s.completion key = @PrivateKey.publicKey s key := rfl

open Classical in
theorem isKey_completion_iff {key : PublicKey} :
    s.completion.isKey key = true ↔ s.isKey key = true ∨ ∃ k, s.publicKey k = key :=
  Bool.or_eq_true_iff.trans (or_congr_right decide_eq_true_iff)

open Classical in
theorem verify_completion_iff {key : PublicKey} {payload signature : Bytes} :
    s.completion.verify key payload signature = true ↔
      s.verify key payload signature = true ∨
        ∃ k, s.publicKey k = key ∧ s.sign k payload = signature :=
  Bool.or_eq_true_iff.trans (or_congr_right decide_eq_true_iff)

theorem correct_completion (length : ∀ key payload, (s.sign key payload).length = 64) :
    @Correct s.completion := by
  let _ := s.completion
  refine ⟨fun key => ?_, fun key payload => ?_⟩
  · exact isKey_completion_iff.2 (.inr ⟨key, rfl⟩)
  · rw [PublicKey.verifies, Bool.and_eq_true, beq_iff_eq]
    exact ⟨length key payload, verify_completion_iff.2 (.inr ⟨key, rfl, rfl⟩)⟩

theorem completion_eq (correct : @Correct s) : s.completion = s := by
  have keys : s.completion.isKey = s.isKey := by
    funext key
    rw [Bool.eq_iff_iff, isKey_completion_iff, or_iff_left_iff_imp]
    rintro ⟨k, rfl⟩
    exact correct.isKey_publicKey k
  have signatures : s.completion.verify = s.verify := by
    funext key payload signature
    rw [Bool.eq_iff_iff, verify_completion_iff, or_iff_left_iff_imp]
    rintro ⟨k, rfl, rfl⟩
    exact (Bool.and_eq_true_iff.1 (correct.verifies_sign k payload)).2
  calc
    s.completion =
        { s with isKey := s.completion.isKey, verify := s.completion.verify } := rfl
    _ = s := by rw [keys, signatures]

end Scheme

theorem Ed25519.length_sign (seed message : Bytes) : (sign seed message).length = 64 := by
  simp [sign, Point.encode]

theorem Scheme.correct_completion_standard : @Correct standard.completion :=
  correct_completion fun key => Ed25519.length_sign key.seed

/-! ### Records -/

/-- Records whose signature is a part of its own. -/
class LawfulSigned (α : Type) [Signed α] : Prop where
  signature_withSignature : ∀ (a : α) (s : Bytes), Signed.signature (Signed.withSignature a s) = s
  unsigned_withSignature : ∀ (a : α) (s : Bytes),
    Signed.unsigned (Signed.withSignature a s) = Signed.unsigned a

instance : LawfulSigned Certificate := ⟨fun _ _ => rfl, fun _ _ => rfl⟩

instance : LawfulSigned SigningRequest := ⟨fun _ _ => rfl, fun _ _ => rfl⟩

instance : LawfulSigned ResolveBody := ⟨fun _ _ => rfl, fun _ _ => rfl⟩

instance : LawfulSigned ClaimBody := ⟨fun _ _ => rfl, fun _ _ => rfl⟩

instance : LawfulSigned DerelictBody := ⟨fun _ _ => rfl, fun _ _ => rfl⟩

namespace Signed

open LawfulSigned

variable {α : Type} [Signed α] [LawfulSigned α]

theorem payload_withSignature (a : α) (s : Bytes) : payload (withSignature a s) = payload a := by
  rw [payload, unsigned_withSignature, payload]

variable [Scheme]

theorem unsigned_sign (key : PrivateKey) (a : α) : unsigned (sign key a) = unsigned a :=
  unsigned_withSignature a _

theorem isSignedBy_sign (correct : Scheme.Correct) (key : PrivateKey) (a : α) :
    isSignedBy (sign key a) key.publicKey = true := by
  rw [isSignedBy, sign, payload_withSignature, signature_withSignature]
  exact correct.verifies_sign key (payload a)

theorem isSignedByAny_sign (correct : Scheme.Correct) {key : PrivateKey} {keys : List PublicKey}
    (known : key.publicKey ∈ keys) (a : α) : isSignedByAny (sign key a) keys = true :=
  List.any_eq_true.2 ⟨key.publicKey, known, isSignedBy_sign correct key a⟩

end Signed

end Warrant

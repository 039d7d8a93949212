import Warrant.Claim
import Warrant.Proofs.Json.Arrangement
import Warrant.Proofs.KeyRingLaws
import Mathlib.Algebra.Group.Int.Defs

namespace Warrant

namespace Moment

theorem bounds_of_isTellable {second : Int} (h : isTellable second = true) :
    -9000000000000 ≤ second ∧ second ≤ 9000000000000 := by
  have low : -9000000000000 ≤ dayNumber (-262143) 1 1 * 86400 := by decide
  have high : dayNumber 262143 1 1 * 86400 ≤ 9000000000000 := by decide
  simp only [isTellable, Bool.and_eq_true, decide_eq_true_eq] at h
  omega

/-- So far from both ends of the range that some minutes more or less stay in it. -/
def IsModerate (now : Int64) : Prop :=
  -2 ^ 62 ≤ now.toInt ∧ now.toInt ≤ 2 ^ 62

theorem isModerate_of_isTellable {now : Int64} (h : isTellable now.toInt = true) :
    IsModerate now := by
  have bounds := bounds_of_isTellable h
  constructor <;> omega

theorem toInt_add_of_bounds {now gap : Int64} (low : -2 ^ 62 ≤ now.toInt)
    (high : now.toInt ≤ 2 ^ 62) (positive : 0 ≤ gap.toInt) (short : gap.toInt ≤ 1000) :
    (now + gap).toInt = now.toInt + gap.toInt := by
  rw [Int64.toInt_add]
  apply Int.bmod_eq_of_le <;> omega

theorem toInt_add_clockSkew {now : Int64} (h : IsModerate now) :
    (now + clockSkew).toInt = now.toInt + 60 :=
  toInt_add_of_bounds h.1 h.2 (by decide) (by decide)

theorem toInt_sub_clockSkew {now : Int64} (h : IsModerate now) :
    (now - clockSkew).toInt = now.toInt - 60 := by
  obtain ⟨low, high⟩ := h
  rw [Int64.toInt_sub, show clockSkew.toInt = 60 from rfl]
  apply Int.bmod_eq_of_le <;> omega

end Moment

namespace Claim

/-- The window of the claim, its ends put off by the skew of clocks, is open. -/
def IsTimely (c : Claim) (now : Int) : Prop :=
  c.validAfter.toInt - 60 ≤ now ∧ now ≤ c.validBefore.toInt + 60

def verdict (c : Claim) (isSigned : Bool) (now : Int) : Except Invalidity Unit :=
  if now < c.validAfter.toInt - 60 then .error .futureToken
  else if c.validBefore.toInt + 60 < now then .error .expiredToken
  else if isSigned then .ok ()
  else .error .invalidSignature

theorem verdict_eq_ok_iff {c : Claim} {isSigned : Bool} {now : Int} :
    c.verdict isSigned now = .ok () ↔ c.IsTimely now ∧ isSigned = true := by
  unfold verdict IsTimely
  split
  · next early =>
    simp only [reduceCtorEq, false_iff]
    omega
  · next begun =>
    split
    · next late =>
      simp only [reduceCtorEq, false_iff]
      omega
    · next current =>
      have timely : c.validAfter.toInt - 60 ≤ now ∧ now ≤ c.validBefore.toInt + 60 := by omega
      cases isSigned <;> simp [timely]

theorem containsIgnoringCase_iff {texts : List String} {text : String} :
    Text.containsIgnoringCase texts text = true ↔
      ∃ t ∈ texts, Text.sameIgnoringCase t text = true := by
  simp only [Text.containsIgnoringCase, List.any_eq_true, Text.sameIgnoringCase_comm text]

variable [Scheme]

def IsVouchedFor (c : Claim) (keys : AuthorityKeys) (now : Moment) : Prop :=
  ∃ k ∈ keys.table.values, (∀ expiry ∈ k.expiresAt, expiry.before now = false) ∧
    Signed.isSignedBy c k.key = true

theorem isVouchedFor_iff {c : Claim} {keys : AuthorityKeys} {now : Moment} :
    Signed.isSignedByAny c (keys.usable now) = true ↔ c.IsVouchedFor keys now := by
  simp only [Signed.isSignedByAny, List.any_eq_true, keys.aligned.mem_usable_iff, IsVouchedFor,
    keys.aligned.mem_values_iff]
  constructor
  · rintro ⟨key, ⟨id, k, found, usable, rfl⟩, signed⟩
    exact ⟨k, ⟨id, found⟩, usable, signed⟩
  · rintro ⟨k, ⟨id, found⟩, usable, signed⟩
    exact ⟨k.key, ⟨id, k, found, usable, rfl⟩, signed⟩

theorem validate_eq_verdict {c : Claim} {usable : List PublicKey} {now : Int64}
    (moderate : Moment.IsModerate now) :
    c.validate usable now = c.verdict (Signed.isSignedByAny c usable) now.toInt := by
  have early : now + clockSkew < c.validAfter ↔ now.toInt < c.validAfter.toInt - 60 := by
    rw [Int64.lt_iff_toInt_lt, Moment.toInt_add_clockSkew moderate]
    omega
  have late : c.validBefore < now - clockSkew ↔ c.validBefore.toInt + 60 < now.toInt := by
    rw [Int64.lt_iff_toInt_lt, Moment.toInt_sub_clockSkew moderate]
    omega
  simp only [validate, verdict, early, late]

theorem validate_eq_ok_iff {c : Claim} {usable : List PublicKey} {now : Int64}
    (told : Moment.isTellable now.toInt = true) :
    c.validate usable now = .ok () ↔
      c.IsTimely now.toInt ∧ Signed.isSignedByAny c usable = true := by
  rw [validate_eq_verdict (Moment.isModerate_of_isTellable told), verdict_eq_ok_iff]

end Claim

def Claim.ofTwos : Claim where
  kind := currentKind
  validAfter := 1700000000
  validBefore := 1700003600
  entity := "alice"
  grants := ["EVERYONE", "alice"]
  destination := "bob"
  signature :=
    Bytes.ofNatLittleEndian 32 0x381D38BF9CA78C1EEEAD1C39BD2195A5E4E6737DB131C9E639CCA58822737DF6 ++
      Bytes.ofNatLittleEndian 32 0x09837312066CE538A454352FA00B8EDCB2337A438612438BE1AE7877F2DC4815

theorem Claim.isSignedBy_ofTwos : Signed.isSignedBy ofTwos PublicKey.ofTwos = true := by
  have shuffle {a b c d e f : Bytes × Json} : [b, e, f, d, a, c].Perm [a, b, c, d, e, f] := by
    classical
    simp only [List.perm_iff_count, List.count_cons, List.count_nil]
    omega
  have payload : Signed.payload ofTwos = Json.write (.object _) :=
    congrArg Json.write (Json.canonical_object_of_perm shuffle (by decide +kernel))
  rw [Signed.isSignedBy, payload]
  decide +kernel

end Warrant

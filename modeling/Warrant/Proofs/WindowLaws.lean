import Warrant.Proofs.Disable.CheckLaws
import Warrant.Proofs.Outbound.LookupLaws
import Warrant.Proofs.RenewalLaws

/-!
The checks of time once more, in arithmetic that gives up where a result is out of range. Whatever
times are named in a claim, a certificate or a disable message, no check gives up, and each comes to
what exact numbers say.
-/

namespace Warrant

namespace Moment

def inRange? (n : Int) : Option Int64 :=
  if Int64.minValue.toInt ≤ n ∧ n ≤ Int64.maxValue.toInt then some (Int64.ofInt n) else none

def plus? (a b : Int64) : Option Int64 :=
  inRange? (a.toInt + b.toInt)

def minus? (a b : Int64) : Option Int64 :=
  inRange? (a.toInt - b.toInt)

theorem inRange?_toInt (n : Int64) : inRange? n.toInt = some n := by
  rw [inRange?, if_pos ⟨n.minValue_le_toInt, n.toInt_le⟩, Int64.ofInt_toInt]

theorem plus?_eq_some {a b : Int64} (exact : (a + b).toInt = a.toInt + b.toInt) :
    plus? a b = some (a + b) := by
  rw [plus?, ← exact, inRange?_toInt]

theorem minus?_eq_some {a b : Int64} (exact : (a - b).toInt = a.toInt - b.toInt) :
    minus? a b = some (a - b) := by
  rw [minus?, ← exact, inRange?_toInt]

section

variable {now : Int64} (moderate : IsModerate now)

include moderate

theorem plus?_clockSkew : plus? now clockSkew = some (now + clockSkew) :=
  plus?_eq_some (toInt_add_clockSkew moderate)

theorem minus?_clockSkew : minus? now clockSkew = some (now - clockSkew) :=
  minus?_eq_some (toInt_sub_clockSkew moderate)

theorem plus?_claimReserve : plus? now claimReserve = some (now + claimReserve) :=
  plus?_eq_some (toInt_add_claimReserve moderate)

theorem isEarly_of_isModerate : DisableMessage.IsEarly now := by
  have high := moderate.2
  have span : DisableMessage.longest.toInt = 86400 := rfl
  rw [DisableMessage.IsEarly, span, Int64.toInt_maxValue]
  omega

end

end Moment

open Moment

/-! ### The checks, giving up -/

namespace Claim

variable [Scheme]

/-- A sum is taken where the check comes to it, and not before. -/
def validate? (c : Claim) (usable : List PublicKey) (now : Int64) :
    Option (Except Invalidity Unit) := do
  let ahead ← plus? now clockSkew
  if ahead < c.validAfter then return .error .futureToken
  else
    let behind ← minus? now clockSkew
    if c.validBefore < behind then return .error .expiredToken
    else if Signed.isSignedByAny c usable then return .ok ()
    else return .error .invalidSignature

theorem validate?_eq {c : Claim} {usable : List PublicKey} {now : Int64}
    (moderate : IsModerate now) : c.validate? usable now = some (c.validate usable now) := by
  simp only [validate?, plus?_clockSkew moderate, minus?_clockSkew moderate, Option.bind_eq_bind,
    Option.bind_some, validate]
  split
  · rfl
  split
  · rfl
  split <;> rfl

end Claim

namespace Certificate

def isValidAt? (c : Certificate) (now : Int64) : Option Bool := do
  let ahead ← plus? now clockSkew
  if c.validAfter ≤ ahead then
    let behind ← minus? now clockSkew
    return decide (behind ≤ c.validBefore)
  else return false

theorem isValidAt?_eq {c : Certificate} {now : Int64} (moderate : IsModerate now) :
    c.isValidAt? now = some (c.isValidAt now) := by
  simp only [isValidAt?, plus?_clockSkew moderate, minus?_clockSkew moderate, Option.bind_eq_bind,
    Option.bind_some, isValidAt]
  split
  · next begun => simp [begun]
  · next early => simp [early]

end Certificate

namespace ClaimCache

variable [Scheme]

def isUsable? (usable : List PublicKey) (now : Int64) (claim : Claim) (destination : String)
    (explicit : Option String) : Option Bool := do
  if Text.sameIgnoringCase claim.destination destination then
    match ← claim.validate? usable now with
    | .error _ => return false
    | .ok () =>
      let reserved ← plus? now claimReserve
      return decide (reserved < claim.validBefore) && explicit.all claim.holds
  else return false

theorem isUsable?_eq {usable : List PublicKey} {now : Int64} {claim : Claim} {destination : String}
    {explicit : Option String} (moderate : IsModerate now) :
    isUsable? usable now claim destination explicit =
      some (isUsable usable now claim destination explicit) := by
  simp only [isUsable?, Claim.validate?_eq moderate, plus?_claimReserve moderate,
    Option.bind_eq_bind, Option.bind_some, isUsable]
  split
  · next addressed =>
    rw [addressed]
    cases claim.validate usable now <;> rfl
  · next elsewhere =>
    rw [Bool.eq_false_iff.mpr elsewhere]
    rfl

end ClaimCache

namespace DisableMessage

variable [Scheme]

def validate? (m : DisableMessage) (key : PublicKey) (now : Int64) :
    Option (Except Error Unit) := do
  if now < m.createdAt then return .error (.signature .recordFromFuture)
  else if m.expiresAt < now then return .error (.signature .recordExpired)
  else
    let limit ← plus? m.createdAt longest
    if limit ≤ m.expiresAt then return .error (.signature .recordTooLong)
    else if Signed.isSignedBy m key then return .ok ()
    else return .error (.signature .record)

theorem validate?_eq {m : DisableMessage} {key : PublicKey} {now : Int64} (early : IsEarly now) :
    m.validate? key now = some (m.validate key now) := by
  unfold validate? validate
  split
  · rfl
  next begun =>
  rw [Int64.lt_iff_toInt_lt, Int.not_lt] at begun
  split
  · rfl
  simp only [plus?_eq_some (toInt_add_longest early begun), Option.bind_eq_bind, Option.bind_some]
  split
  · rfl
  cases Signed.isSignedBy m key <;> rfl

end DisableMessage

/-! ### Whatever is named -/

/-- No check gives up, and none tells anything else than exact numbers do. -/
structure ChecksExactly [Scheme] (now : Int64) : Prop where
  claim_within : ∀ (c : Claim) usable, c.validate? usable now = some (c.validate usable now)
  claim_verdict : ∀ (c : Claim) usable,
    c.validate usable now = c.verdict (Signed.isSignedByAny c usable) now.toInt
  claim_iff : ∀ (c : Claim) usable, c.validate usable now = .ok () ↔
    c.IsTimely now.toInt ∧ Signed.isSignedByAny c usable = true
  certificate_within : ∀ c : Certificate, c.isValidAt? now = some (c.isValidAt now)
  certificate_iff : ∀ c : Certificate, c.isValidAt now = true ↔ c.IsTimely now.toInt
  reuse_within : ∀ usable claim destination named,
    ClaimCache.isUsable? usable now claim destination named =
      some (ClaimCache.isUsable usable now claim destination named)
  reuse_iff : ∀ (keys : AuthorityKeys) clock (claim : Claim) destination named,
    ClaimCache.isUsable (keys.usable clock) now claim destination named = true ↔
      claim.Serves keys clock now.toInt destination named
  disable_within : ∀ (m : DisableMessage) key, m.validate? key now = some (m.validate key now)
  disable_verdict : ∀ (m : DisableMessage) key,
    m.validate key now = m.verdict (Signed.isSignedBy m key) now.toInt
  disable_iff : ∀ (m : DisableMessage) key, m.validate key now = .ok () ↔
    m.IsInForce now ∧ Signed.isSignedBy m key = true

theorem checks_exact [Scheme] {now : Int64} (moderate : IsModerate now) : ChecksExactly now where
  claim_within _ _ := Claim.validate?_eq moderate
  claim_verdict _ _ := Claim.validate_eq_verdict moderate
  claim_iff _ _ := by rw [Claim.validate_eq_verdict moderate, Claim.verdict_eq_ok_iff]
  certificate_within _ := Certificate.isValidAt?_eq moderate
  certificate_iff _ := Certificate.isValidAt_iff moderate
  reuse_within _ _ _ _ := ClaimCache.isUsable?_eq moderate
  reuse_iff _ _ _ _ _ := ClaimCache.isUsable_iff moderate
  disable_within _ _ := DisableMessage.validate?_eq (isEarly_of_isModerate moderate)
  disable_verdict _ _ := DisableMessage.validate_eq_verdict (isEarly_of_isModerate moderate)
  disable_iff _ _ := DisableMessage.validate_eq_ok_iff (isEarly_of_isModerate moderate)

theorem checks_exact_extreme :
    let now : Int64 := 4611686018427387904
    let endless : DisableMessage := ⟨Int64.minValue, Int64.maxValue, true, []⟩
    let last : DisableMessage := ⟨Int64.maxValue, Int64.maxValue, true, []⟩
    IsModerate now ∧
      endless.validate? .ofTwos now = some (.error (.signature .recordTooLong)) ∧
      plus? last.createdAt DisableMessage.longest = none ∧
      last.validate? .ofTwos now = some (.error (.signature .recordFromFuture)) := by
  intro now endless last
  have moderate : IsModerate now := by constructor <;> decide
  have exact := checks_exact moderate
  refine ⟨moderate, ?_, by decide, ?_⟩
  · rw [exact.disable_within, exact.disable_verdict, DisableMessage.verdict, if_neg (by decide),
      if_neg (by decide), if_pos (by decide)]
  · rw [exact.disable_within, exact.disable_verdict, DisableMessage.verdict, if_pos (by decide)]

end Warrant

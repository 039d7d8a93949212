import Warrant.Proofs.InboundLaws
import Warrant.Proofs.Outbound.FailureLaws

namespace Warrant

/-! ### Keys that do not expire -/

namespace KeyRing

def Unlimited (r : KeyRing) : Prop :=
  ∀ id k, r.find? id = some k → k.expiresAt = none

theorem Unlimited.usable_eq {r : KeyRing} (h : r.Unlimited) (now : Moment) :
    r.usable now = (r.order.filterMap r.find?).map TrustedKey.key := by
  have kept : ∀ k ∈ r.order.filterMap r.find?, k.isUsable now = true := by
    intro k mem
    obtain ⟨id, -, found⟩ := List.mem_filterMap.mp mem
    simp [TrustedKey.isUsable, h id k found]
  rw [usable, List.filter_eq_self.mpr kept]

theorem Unlimited.pin [Scheme] {r : KeyRing} (h : r.Unlimited) (key : PublicKey) :
    (r.pin key).Unlimited := by
  intro id k found
  have found := (find?_put r key.id id _).symm.trans found
  split at found
  · cases found
    rfl
  · exact h id k found

end KeyRing

namespace AuthorityKeys

variable [Scheme]

theorem unlimited_pinned (keys : List PublicKey) : (pinned keys).Unlimited :=
  List.foldlRecOn keys pin (motive := fun ring => ring.Unlimited) (fun _ _ found => nomatch found)
    fun _ unlimited key _ => unlimited.pin key

theorem usable_pinned (keys : List PublicKey) (now later : Moment) :
    (pinned keys).usable now = (pinned keys).usable later :=
  ((unlimited_pinned keys).usable_eq now).trans ((unlimited_pinned keys).usable_eq later).symm

end AuthorityKeys

/-! ### From the sender to the receiver -/

theorem Text.sameIgnoringCase_trans {a b c : String} (h : sameIgnoringCase a b = true)
    (g : sameIgnoringCase b c = true) : sameIgnoringCase a c = true :=
  sameIgnoringCase_iff.mpr ((sameIgnoringCase_iff.mp h).trans (sameIgnoringCase_iff.mp g))

/-- What a receiver makes of a claim in which nothing but what it grants can be wanting. -/
structure Claim.Received (claim : Claim) (allowed : List String) (decision : Decision) : Prop where
  allowed_iff : decision.status = .allowed ↔ claim.Satisfies allowed
  remote : claim.Satisfies allowed → decision.remote = some claim.entity ∧ decision.error = none
  refused : ¬claim.Satisfies allowed → decision.remote = none ∧
    decision.error = some (.noCommonClaims claim.grants (Inbound.required allowed claim))

section

variable [Scheme]

theorem Claim.of_validate_eq_ok {c : Claim} {usable : List PublicKey} {now : Int64}
    (valid : c.validate usable now = .ok ()) :
    ¬now + clockSkew < c.validAfter ∧ Signed.isSignedByAny c usable = true := by
  unfold validate at valid
  split at valid
  · cases valid
  · next begun =>
    split at valid
    · cases valid
    · split at valid
      · next signed => exact ⟨begun, signed⟩
      · cases valid

/-- The sender keeps back more of the window than the receiver puts it off. -/
theorem ClaimCache.isTimely_of_isUsable {usable : List PublicKey} {sent received : Int64}
    (told : Moment.isTellable received.toInt = true) (after : sent.toInt ≤ received.toInt)
    (soon : received.toInt ≤ sent.toInt + 240) {claim : Claim} {destination : String}
    {explicit : Option String} (h : isUsable usable sent claim destination explicit = true) :
    claim.IsTimely received.toInt ∧ Signed.isSignedByAny claim usable = true := by
  have bounds := Moment.bounds_of_isTellable told
  have skewed : (sent + clockSkew).toInt = sent.toInt + 60 :=
    Moment.toInt_add_of_bounds (by omega) (by omega) (by decide) (by decide)
  have reserved : (sent + claimReserve).toInt = sent.toInt + 180 :=
    Moment.toInt_add_of_bounds (by omega) (by omega) (by decide) (by decide)
  simp only [isUsable, Bool.and_eq_true, decide_eq_true_eq] at h
  obtain ⟨⟨⟨-, valid⟩, lasting⟩, -⟩ := h
  have valid : claim.validate usable sent = .ok () := by
    cases checked : claim.validate usable sent with
    | ok _ => rfl
    | error _ => simp [checked, Except.toBool] at valid
  obtain ⟨begun, signed⟩ := Claim.of_validate_eq_ok valid
  rw [Int64.lt_iff_toInt_lt] at begun lasting
  refine ⟨⟨?_, ?_⟩, signed⟩ <;> omega

namespace Inbound

theorem check_of_valid {i : Inbound} {usable : List PublicKey} {now : Int64}
    {token : Option String} {claim : Claim} (carries : Carries token claim)
    (valid : claim.validate usable now = .ok ()) (addressed : claim.IsAddressedTo i.destinations)
    (allowed : List String) :
    i.check usable now token allowed =
      if claim.holdsAny (required allowed claim) then .ok claim
      else .error (.noCommonClaims claim.grants (required allowed claim)) := by
  rw [check_of_carries carries, inspect_eq, valid]
  simp only [Claim.isAddressedTo_iff.mpr addressed, if_true]
  split <;> rfl

theorem received_of_valid {i : Inbound} (at_ : Circumstances) {token : Option String}
    {claim : Claim} (carries : Carries token claim)
    (valid : claim.validate at_.usable at_.now = .ok ())
    (addressed : claim.IsAddressedTo i.destinations) (options : List InboundOption) :
    claim.Received (i.admitted options) (i.evaluate at_ token options).1 := by
  have checked := check_of_valid carries valid addressed (i.admitted options)
  change claim.Received _ (i.decide at_ token options)
  by_cases satisfies : claim.Satisfies (i.admitted options)
  · rw [if_pos (Claim.holdsAny_required_iff.mpr satisfies)] at checked
    rw [decide_of_ok checked]
    exact ⟨iff_of_true rfl satisfies, fun _ => ⟨rfl, rfl⟩, fun lacking => absurd satisfies lacking⟩
  · rw [if_neg (mt Claim.holdsAny_required_iff.mp satisfies)] at checked
    have unlike := (status_of_error checked).1
    rw [decide_of_error checked] at unlike ⊢
    exact ⟨iff_of_false unlike satisfies, fun held => absurd held satisfies, fun _ => ⟨rfl, rfl⟩⟩

end Inbound

theorem ClaimCache.reusable_received (keys : List PublicKey) (clock now : Moment) {sent : Int64}
    (told : Moment.isTellable now.second.toInt = true) (after : sent.toInt ≤ now.second.toInt)
    (soon : now.second.toInt ≤ sent.toInt + 240) {claim : Claim} {destination : String}
    {explicit : Option String}
    (usable : isUsable ((AuthorityKeys.pinned keys).usable clock) sent claim destination explicit =
      true)
    (i : Inbound)
    (here : ∃ d ∈ i.destinations, Text.sameIgnoringCase d destination = true)
    (isDerelict : String → Bool) (enforcement : Float) (enforced : Bool)
    (options : List InboundOption) :
    claim.Received (i.admitted options)
      (i.evaluate
        ⟨(AuthorityKeys.pinned keys).usable now, now.second, isDerelict, enforcement, enforced⟩
        (some (Record.marshal claim)) options).1 := by
  have good := isTimely_of_isUsable told after soon usable
  rw [AuthorityKeys.usable_pinned keys clock now, ← Claim.validate_eq_ok_iff told] at good
  have same : Text.sameIgnoringCase claim.destination destination = true := by
    simp only [isUsable, Bool.and_eq_true] at usable
    exact usable.1.1.1
  have addressed : claim.IsAddressedTo i.destinations := by
    obtain ⟨d, configured, like⟩ := here
    rw [Text.sameIgnoringCase_comm] at same
    exact ⟨d, configured, Text.sameIgnoringCase_trans like same⟩
  exact Inbound.received_of_valid ⟨_, now.second, isDerelict, enforcement, enforced⟩
    (Inbound.carries_marshal claim) good addressed options

end

/-! ### The last second of use -/

/-- A claim is used at 1700003419 for the last time, and is let in four minutes later, when its
window has been over for a minute. -/
theorem ClaimCache.reusable_received_last :
    let keys := AuthorityKeys.pinned [.ofTwos]
    let now := Moment.ofSecond 1700003659
    let sent : Int64 := 1700003419
    let i : Inbound := ⟨"bob", ["Bob"], [everyone]⟩
    Moment.isTellable now.second.toInt = true ∧
      (sent.toInt ≤ now.second.toInt ∧ now.second.toInt ≤ sent.toInt + 240) ∧
      isUsable (keys.usable (.ofSecond sent)) sent .ofTwos "bob" none = true ∧
      (∃ d ∈ i.destinations, Text.sameIgnoringCase d "bob" = true) ∧
      (i.evaluate ⟨keys.usable now, now.second, fun _ => false, 1, true⟩
        (some (Record.marshal Claim.ofTwos)) []).1.status = .allowed := by
  intro keys now sent i
  have alone : keys.usable (.ofSecond sent) = [.ofTwos] := KeyRing.usable_put_empty _ _ _ _
  have usable : isUsable (keys.usable (.ofSecond sent)) sent .ofTwos "bob" none = true := by
    rw [alone]
    exact isUsable_ofTwos (by decide) (by decide) (by decide)
  have here : ∃ d ∈ i.destinations, Text.sameIgnoringCase d "bob" = true :=
    ⟨"Bob", by simp [i], by decide +kernel⟩
  have received := reusable_received [.ofTwos] (.ofSecond sent) now (by decide) (by decide)
    (by decide) usable i here (fun _ => false) 1 true []
  refine ⟨by decide, by decide, usable, here, received.allowed_iff.mpr ?_⟩
  exact .inr ⟨everyone, .inl (by decide), everyone, by decide, Text.sameIgnoringCase_self _⟩

end Warrant

import Warrant.Proofs.Authority.RequestLaws
import Mathlib.Data.List.Induction

namespace Warrant

namespace Renewal

open Certificate

theorem get?_keptTags (c : Certificate) (tag : String) :
    (keptTags c).get? tag =
      if c.isBootstrap = true ∧ (tag = launchRequestTag ∨ tag = bootstrapTag) then none
      else c.tags.get? tag := by
  unfold keptTags
  by_cases bootstrap : c.isBootstrap = true
  · rw [if_pos bootstrap, Dictionary.get?_erase, Dictionary.get?_erase]
    by_cases launch : tag = launchRequestTag
    · simp [launch, bootstrap]
    · simp [launch, bootstrap]
  · rw [if_neg bootstrap, if_neg fun both => bootstrap both.1]

theorem isSome_launchRequest (c : Certificate) : (launchRequest c).isSome = c.isBootstrap := by
  unfold launchRequest
  by_cases bootstrap : c.isBootstrap = true
  · have tagged := bootstrap
    rw [isBootstrap, Bool.and_eq_true] at tagged
    rw [if_pos bootstrap, bootstrap]
    exact tagged.1
  · simp [bootstrap]

end Renewal

/-- `next` is the same entity's, with its key, regular, and with all tags that may be kept. -/
structure Credential.Succeeds [Scheme] (next held : Credential) : Prop where
  matches_key : next.Matches
  entity : next.certificate.entity = held.certificate.entity
  kind : next.certificate.kind = held.certificate.kind
  host : next.certificate.host = held.certificate.host
  regular : next.certificate.isBootstrap = false
  tags : ∀ tag, next.certificate.tags.get? tag =
    if held.certificate.isBootstrap = true ∧
        (tag = Certificate.launchRequestTag ∨ tag = Certificate.bootstrapTag) then none
    else held.certificate.tags.get? tag

theorem Credential.Succeeds.trans [Scheme] {first held next : Credential}
    (h : next.Succeeds held) (before : held.Succeeds first) : next.Succeeds first where
  matches_key := h.matches_key
  entity := h.entity.trans before.entity
  kind := h.kind.trans before.kind
  host := h.host.trans before.host
  regular := h.regular
  tags tag := by
    rw [h.tags, before.regular, if_neg (by simp), before.tags]

/-- The request shows that the credential is held, and says whether it is a bootstrap one. -/
structure SigningRequest.Proves [Scheme] (request : SigningRequest) (held : Credential) : Prop where
  verified : request.verify = .ok ()
  signer : request.signingCertificate = held.certificate
  launch : request.launchRequest =
    if held.certificate.isBootstrap then held.certificate.tags.get? Certificate.launchRequestTag
    else none
  launches : request.launchRequest.isSome = held.certificate.isBootstrap

namespace Renewal

/-- What a renewal is made with that the authority grants: it signs the certificate as it was asked
for. -/
structure Grant where
  key : PrivateKey
  serial : UInt64
  asked : Int64
  authority : PrivateKey
  usable : List PublicKey
  ended : Int64

namespace Grant

variable [Scheme]

def renewal (g : Grant) (held : Credential) : Renewal :=
  .start held g.key g.serial g.asked

def signed (g : Grant) (held : Credential) : Certificate :=
  Signed.sign g.authority (g.renewal held).request.certificate

def outcome (g : Grant) (held : Credential) : Except Error Credential :=
  (g.renewal held).finish g.usable g.ended (g.signed held)

structure Timely (g : Grant) : Prop where
  known : g.authority.publicKey ∈ g.usable
  asked_told : Moment.isTellable g.asked.toInt = true
  ended_told : Moment.isTellable g.ended.toInt = true
  begun : g.asked.toInt - 60 ≤ g.ended.toInt
  lasting : g.ended.toInt ≤ g.asked.toInt + 72000

variable {g : Grant} {held : Credential}

theorem proves (correct : Scheme.Correct) (h : held.Matches) (g : Grant) :
    (g.renewal held).request.Proves held where
  verified := SigningRequest.verify_make correct _ h _
  signer := rfl
  launch := rfl
  launches := isSome_launchRequest held.certificate

theorem Timely.isValidAt (h : g.Timely) (held : Credential) :
    (g.signed held).isValidAt g.ended = true := by
  have bounds := Moment.bounds_of_isTellable h.asked_told
  have start : (g.signed held).validAfter.toInt = g.asked.toInt - 60 :=
    Moment.toInt_sub_clockSkew (Moment.isModerate_of_isTellable h.asked_told)
  have stop : (g.signed held).validBefore.toInt = g.asked.toInt + 72000 := by
    change (g.asked + Certificate.lifetime).toInt = _
    rw [Int64.toInt_add, show Certificate.lifetime.toInt = 72000 from rfl]
    apply Int.bmod_eq_of_le <;> omega
  have begun := h.begun
  have lasting := h.lasting
  rw [Certificate.isValidAt_iff (Moment.isModerate_of_isTellable h.ended_told),
    Certificate.IsTimely]
  omega

theorem Timely.outcome_eq (h : g.Timely) (correct : Scheme.Correct) (held : Credential) :
    g.outcome held = .ok ⟨g.signed held, g.key⟩ :=
  finish_eq_ok_iff.2 ⟨rfl, Certificate.check_eq_ok_iff.2
    ⟨h.isValidAt held, Signed.isSignedByAny_sign correct h.known _⟩, rfl⟩

theorem succeeds (g : Grant) (held : Credential) :
    Credential.Succeeds ⟨g.signed held, g.key⟩ held where
  matches_key := rfl
  entity := rfl
  kind := rfl
  host := rfl
  regular := isBootstrap_of_keptTags held.certificate rfl
  tags := get?_keptTags held.certificate

end Grant

section Runs

variable [Scheme]

def renewed (first : Credential) (grants : List Grant) : Except Error Credential :=
  grants.foldlM (fun held g => g.outcome held) first

theorem renewed_concat (first : Credential) (grants : List Grant) (g : Grant) :
    renewed first (grants ++ [g]) = renewed first grants >>= g.outcome := by
  simp [renewed, List.foldlM_append]

structure Link (first held : Credential) (g : Grant) (next : Credential) : Prop where
  request : (g.renewal held).request.Proves held
  outcome : g.outcome held = .ok next
  succeeds : next.Succeeds held
  descends : next.Succeeds first

theorem exists_renewed (correct : Scheme.Correct) {first : Credential} (h : first.Matches)
    {grants : List Grant} (timely : ∀ g ∈ grants, g.Timely) :
    ∃ held, renewed first grants = .ok held ∧ held.Matches ∧
      ∀ next : Credential, next.Succeeds held → next.Succeeds first := by
  -- Whatever succeeds what is held succeeds the first credential too. Of what is held itself that
  -- cannot be said before the first renewal, since it may be a bootstrap credential.
  induction grants using List.reverseRecOn with
  | nil => exact ⟨first, rfl, h, fun _ => id⟩
  | append_singleton grants g ih =>
    obtain ⟨held, before, -, descends⟩ := ih fun g mem => timely g (List.mem_append_left _ mem)
    have granted := (timely g (by simp)).outcome_eq correct held
    have succeeds := g.succeeds held
    refine ⟨⟨g.signed held, g.key⟩, ?_, succeeds.matches_key, ?_⟩
    · rw [renewed_concat, before]
      exact granted
    · exact fun next later => descends next (later.trans succeeds)

theorem renewal_run (correct : Scheme.Correct) {first : Credential} (h : first.Matches)
    {grants : List Grant} (timely : ∀ g ∈ grants, g.Timely) :
    ∀ before g after, grants = before ++ g :: after → ∃ held next,
      renewed first before = .ok held ∧ renewed first (before ++ [g]) = .ok next ∧
        Link first held g next := by
  rintro before g after rfl
  obtain ⟨held, reached, matches_key, descends⟩ :=
    exists_renewed correct h fun g mem => timely g (List.mem_append_left _ mem)
  have granted := (timely g (by simp)).outcome_eq correct held
  have succeeds := g.succeeds held
  refine ⟨held, _, reached, ?_, g.proves correct matches_key, granted, succeeds,
    descends _ succeeds⟩
  rw [renewed_concat, reached]
  exact granted

end Runs

/-! ### A bootstrap credential that is exchanged and then renewed -/

def Grant.exchange : Grant :=
  ⟨⟨List.replicate 32 3, List.length_replicate⟩, 1, 1700000000, .ofTwos, [.ofTwos], 1700000005⟩

def Grant.extension : Grant :=
  ⟨⟨List.replicate 32 4, List.length_replicate⟩, 2, 1700001800, .ofTwos, [.ofTwos], 1700001800⟩

theorem renewal_bootstrap :
    let _ := standard.completion
    Scheme.Correct ∧ Credential.bootstrap.Matches ∧
      (∀ g ∈ [Grant.exchange, Grant.extension], g.Timely) ∧
      ∃ held next, renewed .bootstrap [.exchange] = .ok held ∧
        renewed .bootstrap [.exchange, .extension] = .ok next ∧
        Link .bootstrap held .extension next := by
  intro _
  have correct : Scheme.Correct := Scheme.correct_completion_standard
  have publicKey : PrivateKey.ofTwos.publicKey = .ofTwos :=
    (Scheme.publicKey_completion .ofTwos).trans PrivateKey.publicKey_ofTwos
  have certified : Credential.bootstrap.Matches := by
    rw [Credential.Matches, Credential.bootstrap, publicKey]
    rfl
  have known : PrivateKey.ofTwos.publicKey ∈ [PublicKey.ofTwos] := List.mem_singleton.2 publicKey
  have timely : ∀ g ∈ [Grant.exchange, Grant.extension], g.Timely := by
    refine List.forall_mem_cons.2 ⟨?_, List.forall_mem_singleton.2 ?_⟩
    · exact ⟨known, by decide, by decide, by decide, by decide⟩
    · exact ⟨known, by decide, by decide, by decide, by decide⟩
  exact ⟨correct, certified, timely,
    renewal_run correct certified timely [.exchange] .extension [] rfl⟩

end Renewal

end Warrant

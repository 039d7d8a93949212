import Warrant.Client
import Warrant.Proofs.Disable.CheckLaws
import Warrant.Proofs.RenewalLaws

namespace Warrant

namespace Founding

section

variable [Scheme]

/-- What a client in the making goes on with: a bootstrap certificate only if it could not be
exchanged. -/
inductive Admits (f : Founding) : Identity → Identity → Prop
  | enrolled (entity : String) (key : PrivateKey) :
      Admits f (.enrolled entity key) (.enrolled entity key)
  | regular {c : Credential} {key : PrivateKey} {serial : UInt64} {wall : Int64} :
      upgrade? c key serial wall = none → Admits f (.certified c) (.certified c)
  | upgraded {c c' : Credential} {key : PrivateKey} {serial : UInt64} {wall ended : Int64}
      {renewal : Renewal} {usable : List PublicKey} {reply : Except Error Certificate} :
      upgrade? c key serial wall = some renewal → renewal.request.Granted reply →
      f.upgraded renewal usable ended reply = .ok c' → Admits f (.certified c) (.certified c')

theorem upgrade?_eq_none_iff {c : Credential} {key : PrivateKey} {serial : UInt64} {wall : Int64} :
    upgrade? c key serial wall = none ↔ c.certificate.isBootstrap = false := by
  unfold upgrade?
  cases c.certificate.isBootstrap <;> simp

theorem upgrade?_eq_some_iff {c : Credential} {key : PrivateKey} {serial : UInt64} {wall : Int64}
    {renewal : Renewal} : upgrade? c key serial wall = some renewal ↔
      c.certificate.isBootstrap = true ∧ renewal = .start c key serial wall := by
  unfold upgrade?
  cases c.certificate.isBootstrap <;> simp [eq_comm]

theorem Admits.isDisabled {f : Founding} {identity : Identity} {c : Credential}
    (admits : f.Admits identity (.certified c)) (bootstrap : c.certificate.isBootstrap = true) :
    f.isDisabled = true := by
  cases admits with
  | regular none => exact nomatch (upgrade?_eq_none_iff.1 none).symm.trans bootstrap
  | upgraded some granted done =>
    obtain ⟨-, rfl⟩ := upgrade?_eq_some_iff.1 some
    unfold Founding.upgraded at done
    split at done
    · next exchanged =>
      cases done
      have regular := (Renewal.proper_start ..).granted granted exchanged
      exact nomatch regular.symm.trans bootstrap
    · split at done
      · next disabled => exact disabled
      · cases done

end

end Founding

/-! ### A client that is made while the library is disabled, and one that is not -/

def Config.bob : Config :=
  { Config.standard with serviceName := "bob" }

namespace Founding

def paused : Founding :=
  ⟨.bob, true, some ⟨Config.bob.recordDomain, some .ofTwos, false⟩, [.ofTwos]⟩

def enabled : Founding :=
  ⟨.bob, false, some ⟨Config.bob.recordDomain, none, false⟩, [.ofTwos]⟩

theorem start_bob {records : DisableMonitor.Records} {now : Moment}
    {c : DisableMonitor.Checked}
    (h : DisableMonitor.check ⟨Config.bob.recordDomain, none, false⟩ false records [.ofTwos]
      now.second = c) :
    start .bob (.pinned [.ofTwos]) records now =
      .ok ⟨.bob, c.isDisabled, some c.monitor, c.consulted⟩ := by
  have valid : Config.bob.validate = .ok () := by decide +kernel
  have keyed : (AuthorityKeys.pinned [.ofTwos]).isEmpty = false := rfl
  have usable : (AuthorityKeys.pinned [.ofTwos]).usable now = [.ofTwos] :=
    KeyRing.usable_put_empty _ _ _ now
  have named : (Text.trimBy (· = '.') Config.bob.recordDomain).isEmpty = false := by decide +kernel
  rw [start, valid, keyed, usable, DisableMonitor.make, named, ← h]
  rfl

theorem start_of_backs {records : DisableMonitor.Records} {now : Moment}
    (early : DisableMessage.IsEarly now.second)
    (backs : DisableMonitor.Backs Config.bob.recordDomain records now.second .ofTwos) :
    start .bob (.pinned [.ofTwos]) records now = .ok paused := by
  obtain ⟨text, found, accepted⟩ :=
    (DisableMonitor.backs_iff (m := ⟨Config.bob.recordDomain, none, false⟩) early).1 backs
  refine start_bob
    (c := ⟨⟨Config.bob.recordDomain, some .ofTwos, false⟩, true, [.ofTwos], false⟩) ?_
  simp only [DisableMonitor.check, DisableMonitor.scan, found, accepted, if_true]

theorem start_paused :
    start .bob (.pinned [.ofTwos])
      (DisableMonitor.publishing (DisableMessage.recordName .ofTwos Config.bob.recordDomain)
        (Record.marshal DisableMessage.ofTwos)) (.ofSecond 1700000000) = .ok paused :=
  start_of_backs
    (by simp [Moment.ofSecond, DisableMessage.IsEarly, DisableMessage.longest,
      Int64.toInt_maxValue])
    (DisableMonitor.backs_ofTwos _ _ (by decide) (by decide))

theorem start_enabled (now : Moment) :
    start .bob (.pinned [.ofTwos]) (fun _ => none) now = .ok enabled :=
  start_bob rfl

theorem admits_paused : paused.Admits (.certified .bootstrap) (.certified .bootstrap) := by
  have asked : upgrade? .bootstrap .ofTwos 1 1700000000 =
      some (.start .bootstrap .ofTwos 1 1700000000) := rfl
  have failed : paused.upgraded (.start .bootstrap .ofTwos 1 1700000000) [.ofTwos] 1700000000
      (.error (.authorityUnavailable .unreachable)) = .ok .bootstrap := rfl
  refine .upgraded asked ?_ failed
  exact fun _ answered => nomatch answered

theorem admits_enabled : enabled.Admits (.certified .exchanged) (.certified .exchanged) := by
  have unasked : upgrade? .exchanged .ofTwos 1 1700000000 = none := rfl
  exact .regular unasked

end Founding

end Warrant

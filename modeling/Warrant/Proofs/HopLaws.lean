import Warrant.Proofs.InboundLaws
import Warrant.Proofs.MetadataLaws
import Warrant.Proofs.Outbound.AddresseeLaws
import Warrant.Proofs.Outbound.CoherenceLaws
import Warrant.Proofs.Outbound.RestraintLaws

namespace Warrant

/-! ### On the way in -/

theorem Inbound.metadata_authenticate [Scheme] (i : Inbound) (isDisabled : Bool)
    (at_ : Circumstances) (m : Metadata) (options : List InboundOption) :
    (i.authenticate isDisabled at_ m options).1 = m.takeToken.2 := by
  cases isDisabled <;> rfl

namespace Metadata

theorem takeToken_withToken (edits : List Edit) (token : String) :
    ((made edits).withToken token).takeToken.2 = made (withoutToken edits) := by
  have last : (made edits).withToken token = made (edits ++ [.insert claimKey token]) :=
    (made_concat edits (.insert claimKey token)).symm
  have ofToken : (Edit.insert claimKey token).isOfToken = true :=
    Text.sameIgnoringCase_self claimKey
  rw [last, takeToken_made, withoutToken_concat, if_pos ofToken]

end Metadata

/-! ### On the way out -/

namespace Traffic

def Withholds (t : Traffic) (c : OutboundCall) (reading : Reading) : Prop :=
  reading.isDisabled = true ∨ c.destination = "" ∨
    t.outbound.skips.skips c.destination t.now = true

/-- What has come of the metadata of a request, and what a receiver leaves of them. -/
structure Forwards [Scheme] (past : List Note) (n : Nat) (c : OutboundCall)
    (edits : List Metadata.Edit) (sent : Metadata) : Prop where
  came : sent = .made edits ∨ ∃ claim, Fit past n c claim ∧ (Metadata.made edits).Bears claim sent
  left : ∀ (i : Inbound) isDisabled at_ options,
    (i.authenticate isDisabled at_ sent options).1 = .made (Metadata.withoutToken edits)

section

variable {t : Traffic} {m : Metadata} {c : OutboundCall} {reading : Reading}

theorem looks_of_not_withholds (purpose : c.purpose = .attach m)
    (free : ¬t.Withholds c reading) : t.Looks c reading := by
  simp only [Withholds, not_or] at free
  obtain ⟨enabled, directed, early⟩ := free
  refine ⟨directed, fun _ => ?_⟩
  simp [OutboundCall.withheld?, purpose, enabled, directed, early]

theorem deliver_ok (purpose : c.purpose = .attach m) (claim : Claim) :
    c.deliver (.ok claim) = .metadata (m.withToken (Record.marshal claim)) := by
  simp [OutboundCall.deliver, purpose, Outbound.attach]

theorem deliver_error (purpose : c.purpose = .attach m) (e : Error) :
    c.deliver (.error e) = .metadata m := by
  simp [OutboundCall.deliver, purpose, Outbound.attach]

theorem eq_of_withheld {l : SkipList} {isDisabled : Bool} {now : Nat} {sent : Metadata}
    (purpose : c.purpose = .attach m)
    (withheld : c.withheld? l isDisabled now = some (.metadata sent)) : sent = m := by
  simp only [OutboundCall.withheld?, purpose, Option.ite_none_right_eq_some, Option.some.injEq,
    Delivery.metadata.injEq] at withheld
  exact withheld.2.symm

end

variable [Scheme]

structure Sends (t : Traffic) (m : Metadata) : Prop where
  withheld : ∀ c reading, c.purpose = .attach m → t.Withholds c reading →
    t.Immediate c reading (.metadata m)
  offered : ∀ c reading claim, c.purpose = .attach m → ¬t.Withholds c reading →
    t.Offers c reading claim →
      ∃ sent, m.Bears claim sent ∧ t.Immediate c reading (.metadata sent)
  asks : ∀ c reading, c.purpose = .attach m → ¬t.Withholds c reading →
    (¬∃ claim, t.Offers c reading claim) →
      (t.step (.call c reading)).waiting.get? t.made = some c ∧
        Note.deliveries t.made (t.step (.call c reading)).past = []
  failed : ∀ n c e, c.purpose = .attach m → t.waiting.get? n = some c →
    ∃ asked, (t.step (.reply n (.error e))).Concludes n asked (.metadata m)
  answered : ∀ n c claim, c.purpose = .attach m → t.waiting.get? n = some c →
    ∃ sent asked, m.Bears claim sent ∧
      (t.step (.reply n (.ok claim))).Concludes n asked (.metadata sent)

section

variable {t : Traffic} {m : Metadata} {c : OutboundCall} {reading : Reading}

theorem Sound.sends (h : t.Sound) (lowered : m.IsLowered) : t.Sends m where
  withheld c reading purpose withholds := by
    apply h.immediate_of_withheld
    obtain disabled | undirected | early := withholds
    · simp [OutboundCall.withheld?, purpose, disabled]
    · simp [OutboundCall.withheld?, purpose, undirected]
    · simp [OutboundCall.withheld?, purpose, early]
  offered c reading claim purpose free offers := by
    have immediate := h.offered (looks_of_not_withholds purpose free) offers
    rw [deliver_ok purpose] at immediate
    exact ⟨_, Metadata.bears_withToken lowered claim, immediate⟩
  asks c reading purpose free unserved := by
    obtain ⟨query, asks⟩ := h.asks (looks_of_not_withholds purpose free) unserved
    have after := h.move (t.step_moves (.call c reading))
    exact ⟨asks.waits, (after.waits asks.waits).deliveries⟩
  failed n c e purpose waiting := by
    obtain ⟨query, -, concludes⟩ := (h.replies waiting (.error e)).concludes
    rw [deliver_error purpose] at concludes
    exact ⟨_, concludes⟩
  answered n c claim purpose waiting := by
    obtain ⟨query, -, concludes⟩ := (h.replies waiting (.ok claim)).concludes
    rw [deliver_ok purpose] at concludes
    exact ⟨_, _, Metadata.bears_withToken lowered claim, concludes⟩

theorem Accounts.forwards {calls : List OutboundCall} (h : t.Accounts calls) {n : Nat}
    {edits : List Metadata.Edit} {sent : Metadata} (call : calls[n]? = some c)
    (purpose : c.purpose = .attach (.made edits))
    (delivered : .delivered n (.metadata sent) ∈ t.past) : Forwards t.past n c edits sent := by
  obtain ⟨d, same, yields⟩ := h.delivered n _ delivered
  cases call.symm.trans same
  have unchanged (same : sent = .made edits) : Forwards t.past n c edits sent :=
    ⟨.inl same, by
      intro i isDisabled at_ options
      rw [i.metadata_authenticate, same, Metadata.takeToken_made]⟩
  generalize delivery : Delivery.metadata sent = result at yields
  cases yields with
  | withheld withheld =>
    subst delivery
    exact unchanged (eq_of_withheld purpose withheld)
  | failed e =>
    rw [deliver_error purpose] at delivery
    cases delivery
    exact unchanged rfl
  | @claim claim fit =>
    rw [deliver_ok purpose] at delivery
    cases delivery
    refine ⟨.inr ⟨claim, fit, Metadata.bears_withToken (Metadata.isLowered_made edits) claim⟩, ?_⟩
    intro i isDisabled at_ options
    rw [i.metadata_authenticate, Metadata.takeToken_withToken]

end

/-- What holds of requests and their metadata, when these are made by any edits. -/
structure Hops (t : Traffic) (calls : List OutboundCall) : Prop where
  sends : ∀ edits, t.Sends (.made edits)
  forwards : ∀ n c edits sent, calls[n]? = some c → c.purpose = .attach (.made edits) →
    .delivered n (.metadata sent) ∈ t.past → Forwards t.past n c edits sent

theorem hops_run (keys : AuthorityKeys) (now : Nat) (events : List Event) :
    ((start keys now).run events).Hops (calls events) ∧
      ∀ edits (i : Inbound) isDisabled at_ options,
        let left := (i.authenticate isDisabled at_ (.made edits) options).1
        (Metadata.made edits).Strips left ∧ left = .made (Metadata.withoutToken edits) := by
  have accounts : ((start keys now).run events).Accounts (calls events) :=
    (accounts_resume .empty keys now).run events
  have sound := (sound_start keys now).run events
  refine ⟨⟨fun edits => ?_, fun n c edits sent call purpose delivered => ?_⟩, ?_⟩
  · exact sound.sends (Metadata.isLowered_made edits)
  · exact accounts.forwards call purpose delivered
  · intro edits i isDisabled at_ options
    rw [i.metadata_authenticate]
    exact ⟨Metadata.strips_takeToken (Metadata.isLowered_made edits),
      Metadata.takeToken_made edits⟩

end Traffic

end Warrant

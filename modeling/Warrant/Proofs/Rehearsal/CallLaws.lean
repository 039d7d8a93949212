import Warrant.Proofs.Outbound.Traffic
import Warrant.Proofs.Rehearsal.PlayLaws

namespace Warrant

open Rehearsal

/-- What the traffic of client `n` finds on a stage. -/
structure Traffic.Carries (t : Traffic) (s : Stage) (n : Nat) : Prop where
  seat : ∃ seat, s.host.seats.get? n = some seat ∧ seat.client.outbound = t.outbound ∧
    s.host.keySet seat.keys = t.keys
  now : s.instant = t.now

namespace Traffic

variable {t : Traffic} {s s' : Stage} {n : Nat}

theorem Carries.setOutbound (carries : t.Carries s n) {seat : Seat}
    (there : s.host.seats.get? n = some seat) (outbound : Outbound) :
    Carries { t with outbound } (s.setClient n { seat.client with outbound }) n where
  seat := by
    obtain ⟨_, again, -, keys⟩ := carries.seat
    cases there.symm.trans again
    refine ⟨{ seat with client := { seat.client with outbound } },
      Host.get?_setClient there _, rfl, ?_⟩
    rw [Stage.setClient, Host.keySet, Host.keySets_setClient]
    exact keys
  now := carries.now

variable [Scheme]

theorem Carries.passes (carries : t.Carries s n) (passes : s.Passes s') :
    (t.step (.pass (s'.instant - s.instant))).Carries s' n where
  seat := by
    obtain ⟨seat, there, outbound, keys⟩ := carries.seat
    obtain ⟨seat', there', same, outbound'⟩ := passes.host.outbound there
    refine ⟨seat', there', outbound'.trans outbound, ?_⟩
    rw [Host.keySet, passes.host.keySets, same]
    exact keys
  now := by
    have later : s.instant ≤ s'.instant := Nat.mul_le_mul_left _ passes.clock
    have now : t.now = s.instant := carries.now.symm
    show s'.instant = t.now + (s'.instant - s.instant)
    omega

end Traffic

namespace Rehearsal.Play

variable [Scheme] {α : Type} {t : Traffic} {s : Stage} {n : Nat}

/-- What the two steps of a call come to in traffic: `c` is the call, and `wrap` what is delivered
of a result. -/
theorem comes_continued (ready : s.Ready) (carries : t.Carries s n) (c : OutboundCall)
    (reading : Reading) {first : Outbound × Started α} {last : Except Error Claim → α}
    (wrap : α → Delivery)
    (began : c.first t.outbound (t.keys.usable reading.clock) reading t.now =
      (first.1, first.2.map wrap))
    (ends : ∀ reply, c.deliver reply = wrap (last reply)) :
    (continued n c.requester c.destination first last).Comes s fun result s' =>
      ∃ events, (t.run events).Carries s' n ∧
        (t.run events).past.head? = some (.delivered t.made (wrap result)) := by
  obtain ⟨outbound, started⟩ := first
  simp only [continued, comes_bind, comes_changeClient]
  intro seat there
  have called := carries.setOutbound there outbound
  cases started with
  | done result =>
    simp only [comes_pure]
    refine ⟨[.call c reading], ?_⟩
    have entered : t.run [.call c reading] = t.enter c (outbound, .done (wrap result)) :=
      congrArg (t.enter c) began
    rw [entered]
    exact ⟨⟨called.seat, called.now⟩, rfl⟩
  | asking query =>
    have entered : t.run [.call c reading] = t.enter c (outbound, .asking query) :=
      congrArg (t.enter c) began
    have asked : (t.run [.call c reading]).Carries
        (s.setClient n { seat.client with outbound }) n := by
      rw [entered]
      exact ⟨called.seat, called.now⟩
    have led : s.host.Leads (s.setClient n { seat.client with outbound }).host :=
      .single (.call outbound there)
    simp only [comes_bind, comes_client, comes_get, comes_changeClient, comes_pure]
    intro _ _
    refine (waits_askClaim _ c.requester query _ (ready.leads led)).mono ?_
    intro reply s₂ passes seat₂ there₂
    have waited := asked.passes passes
    refine ⟨[.call c reading,
      .pass (s₂.instant - (s.setClient n { seat.client with outbound }).instant),
      .reply t.made reply], ?_⟩
    generalize s₂.instant - (s.setClient n { seat.client with outbound }).instant = time at waited
    have waiting : ((t.run [.call c reading]).step (.pass time)).waiting.get? t.made = some c := by
      rw [entered]
      exact Table.get?_put_self ..
    have finished : t.run [.call c reading, .pass time, .reply t.made reply] =
        ((t.run [.call c reading]).step (.pass time)).finish t.made c reply :=
      Traffic.step_reply waiting reply
    obtain ⟨_, again, held, -⟩ := waited.seat
    cases there₂.symm.trans again
    rw [finished, held, waited.now]
    have settled := waited.setOutbound there₂
      (((t.run [.call c reading]).step (.pass time)).outbound.settle c.destination
        ((t.run [.call c reading]).step (.pass time)).now reply)
    refine ⟨⟨settled.seat, settled.now⟩, ?_⟩
    rw [← ends]
    rfl

section

variable (ready : s.Ready) (carries : t.Carries s n)
  (told : Moment.isTellable s.wall.toInt = true) (r : Requester) (destination : String)
  (explicit : Option String)
include ready carries told

theorem send_traffic (metadata : Metadata) :
    (send n r metadata destination explicit).Comes s fun result s' =>
      ∃ events, (t.run events).Carries s' n ∧
        (t.run events).past.head? = some (.delivered t.made (.metadata result)) := by
  simp only [send, comes_bind, comes_get, comes_seat]
  intro seat there
  obtain ⟨_, again, held, keys⟩ := carries.seat
  cases there.symm.trans again
  refine comes_continued ready carries ⟨.attach metadata, r, destination, explicit⟩
    ⟨seat.client.isDisabled, .ofSecond s.wall, s.wall, told⟩ .metadata ?_ fun _ => rfl
  rw [← held, ← keys, ← carries.now]
  rfl

theorem credential_traffic :
    (credential n r destination explicit).Comes s fun result s' =>
      ∃ events, (t.run events).Carries s' n ∧
        (t.run events).past.head? = some (.delivered t.made (.token result)) := by
  simp only [credential, comes_bind, comes_get, comes_seat]
  intro seat there
  obtain ⟨_, again, held, keys⟩ := carries.seat
  cases there.symm.trans again
  refine comes_continued ready carries ⟨.token, r, destination, explicit⟩
    ⟨seat.client.isDisabled, .ofSecond s.wall, s.wall, told⟩ .token ?_ fun _ => rfl
  rw [← held, ← keys, ← carries.now]
  rfl

theorem resolve_traffic :
    (resolve n r destination explicit).Comes s fun result s' =>
      ∃ events, (t.run events).Carries s' n ∧
        (t.run events).past.head? = some (.delivered t.made (.claim result)) := by
  simp only [resolve, comes_bind, comes_get, comes_seat]
  intro seat there
  obtain ⟨_, again, held, keys⟩ := carries.seat
  cases there.symm.trans again
  refine comes_continued ready carries ⟨.claim, r, destination, explicit⟩
    ⟨seat.client.isDisabled, .ofSecond s.wall, s.wall, told⟩ .claim ?_ fun _ => rfl
  rw [← held, ← keys]
  rfl

end

end Rehearsal.Play

end Warrant

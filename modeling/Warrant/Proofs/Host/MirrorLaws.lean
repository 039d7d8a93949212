import Warrant.Proofs.Host.MoveLaws
import Warrant.Proofs.Registry.AgreementLaws
import Warrant.Proofs.Registry.LifecycleLaws

/-!
Whatever a host does with one of its registries is an upkeep of certificates, so that what holds of
every upkeep holds of the registries, the tasks and the recoveries of every host.
-/

namespace Warrant

namespace Chronicle

variable [Scheme] {c : Chronicle} {l : LiveRegistry} {h : Handle}

theorem live_unregister (unregistered : c.live.unregister h = .ok l) :
    (c.step (.unregister h)).live = l := by
  simp only [step, unregistered]

theorem live_update {credential : Credential} (updated : c.live.update h credential = .ok l) :
    (c.step (.update h credential)).live = l := by
  obtain ⟨e, there, -, -⟩ := LiveRegistry.update_eq_ok_iff.1 updated
  have entry : c.find? h.key = some e := there
  simp only [step, updated, entry]

end Chronicle

namespace Upkeep

/-- The upkeep of a host's registry `r`. It goes on beside the host: clients of other registries are
among the residents as well, but rest. -/
structure Mirrors (u : Upkeep) (h : Host) (r period : Nat) : Prop where
  /-- A registry that the host does not have yet is empty. -/
  live : u.live = (h.registries.get? r).getD (.make period)
  keySets : u.keySets = h.keySets
  numbers : u.residents.keys = h.seats.keys
  seats : ∀ n s, h.seats.get? n = some s → s.registry = r → ∃ t,
    u.residents.get? n = some t ∧ t.keys = s.keys ∧ t.client.Alike s.client

variable {u u' : Upkeep} {h h' : Host} {r period : Nat}

theorem mirrors_start (r period : Nat) : (start period).Mirrors .empty r period where
  live := rfl
  keySets := rfl
  numbers := rfl
  seats _ _ there := by
    rw [Host.empty, Table.get?_empty] at there
    cases there

namespace Mirrors

variable (m : u.Mirrors h r period)
include m

theorem usable_eq : u.usable = h.usable := by
  funext keys wall
  rw [usable, m.keySets]
  rfl

theorem live_of_given (given : h.registries.contains r = true) : u.live = h.registry r := by
  obtain ⟨l, there⟩ := Option.isSome_iff_exists.1 given
  rw [m.live, Host.registry, there]
  rfl

theorem setRegistry (given : h.registries.contains r = true) {l : LiveRegistry}
    (live : u'.live = l) (keySets : u'.keySets = u.keySets)
    (residents : u'.residents = u.residents) : u'.Mirrors (h.setRegistry r l) r period where
  live := by
    rw [live, Host.get?_setRegistry, if_pos ⟨rfl, given⟩]
    rfl
  keySets := by rw [keySets, m.keySets, Host.keySets_setRegistry]
  numbers := by rw [residents, m.numbers, Host.seats_setRegistry]
  seats n s there own := by
    rw [Host.seats_setRegistry] at there
    rw [residents]
    exact m.seats n s there own

theorem setRegistry_of_ne {q : Nat} (other : q ≠ r) (l : LiveRegistry) :
    u.Mirrors (h.setRegistry q l) r period where
  live := by rw [Host.get?_setRegistry, if_neg fun same => other same.1.symm, m.live]
  keySets := by rw [m.keySets, Host.keySets_setRegistry]
  numbers := by rw [m.numbers, Host.seats_setRegistry]
  seats n s there own := m.seats n s (by rwa [Host.seats_setRegistry] at there) own

theorem putSeat {n : Nat} {s s' : Seat} (there : h.seats.get? n = some s)
    (registry : s'.registry = s.registry) (keys : s'.keys = s.keys)
    (alike : s.registry = r → s.client.Alike s'.client) :
    u.Mirrors { h with seats := h.seats.put n s' } r period where
  live := m.live
  keySets := m.keySets
  numbers := by
    rw [Table.keys_put, if_pos (Table.mem_keys_of_get? there), m.numbers]
  seats k t found own := by
    rw [Table.get?_put] at found
    split at found
    · next same =>
      cases found
      subst same
      obtain ⟨resident, living, same, before⟩ := m.seats k s there (registry.symm.trans own)
      exact ⟨resident, living, same.trans keys.symm,
        before.trans (alike (registry.symm.trans own))⟩
    · exact m.seats k t found own

theorem setClient {n : Nat} {s : Seat} {c : Client} (there : h.seats.get? n = some s)
    (alike : s.registry = r → s.client.Alike c) : u.Mirrors (h.setClient n c) r period := by
  rw [Host.setClient_of_seat there]
  exact m.putSeat there rfl rfl alike

theorem putResident {n : Nat} {s : Seat} {t : Resident}
    (alike : s.registry = r → t.keys = s.keys ∧ t.client.Alike s.client) :
    Mirrors { u with residents := u.residents.put n t } { h with seats := h.seats.put n s } r
      period where
  live := m.live
  keySets := m.keySets
  numbers := by rw [Table.keys_put, Table.keys_put, m.numbers]
  seats k s' found own := by
    rw [Table.get?_put] at found ⊢
    split at found
    · next same =>
      cases found
      rw [if_pos same]
      exact ⟨t, rfl, alike own⟩
    · next other =>
      rw [if_neg other]
      exact m.seats k s' found own

theorem putKeys (number : Nat) (keys : AuthorityKeys) :
    Mirrors { u with keySets := u.keySets.put number keys }
      { h with keySets := h.keySets.put number keys } r period where
  live := m.live
  keySets := by rw [m.keySets]
  numbers := m.numbers
  seats := m.seats

variable [Scheme]

/-- One event of the upkeep for what the host does to the registry, if it is this one. -/
theorem registryEvent {q : Nat} {l : LiveRegistry} (event : RegistryEvent)
    (live : q = r → h.registries.contains r = true → (u.step (.registry event)).live = l) :
    ∃ events, (u.run events).Mirrors (h.setRegistry q l) r period := by
  by_cases own : q = r
  · subst own
    cases given : h.registries.contains q with
    | false =>
      rw [Host.setRegistry_of_absent given]
      exact ⟨[], m⟩
    | true => exact ⟨[.registry event], m.setRegistry given (live rfl given) rfl rfl⟩
  · exact ⟨[], m.setRegistry_of_ne own l⟩

theorem task (q g : Nat) (event : RefreshTask.Event) :
    ∃ events, (u.run events).Mirrors
      (h.setRegistry q ((h.registry q).step g (h.told q g event))) r period := by
  refine m.registryEvent (.task g event) fun own given => ?_
  subst own
  have live := m.live_of_given given
  cases running : u.task? g with
  | none =>
    have absent : u.chronicle.live.tasks.get? g = none := running
    have none : (h.registry q).tasks.get? g = none := by rwa [← live]
    simp only [step, told, running, Upkeep.live, Chronicle.step, absent, LiveRegistry.step, none]
    exact live
  | some t =>
    have some : (h.registry q).tasks.get? g = some t := by rwa [← live]
    rw [live_task running, LiveRegistry.step_of_some some, Host.told, some, live, m.usable_eq]

theorem unregister (q : Nat) {handle : Handle} {l : LiveRegistry}
    (unregistered : (h.registry q).unregister handle = .ok l) :
    ∃ events, (u.run events).Mirrors (h.setRegistry q l) r period := by
  refine m.registryEvent (.unregister handle) fun own given => ?_
  subst own
  rw [← m.live_of_given given] at unregistered
  exact Chronicle.live_unregister unregistered

theorem update (q : Nat) {handle : Handle} {credential : Credential} {l : LiveRegistry}
    (updated : (h.registry q).update handle credential = .ok l) :
    ∃ events, (u.run events).Mirrors (h.setRegistry q l) r period := by
  refine m.registryEvent (.update handle credential) fun own given => ?_
  subst own
  rw [← m.live_of_given given] at updated
  exact Chronicle.live_update updated

/-- A registration is two events, one right after the other. -/
theorem register (q : Nat) (credential : Credential) (endpoint : String) (context : RefreshContext)
    (now : Nat) :
    ∃ events, (u.run events).Mirrors
      (h.setRegistry q ((h.registry q).register credential endpoint context now).1) r period := by
  by_cases own : q = r
  · subst own
    cases given : h.registries.contains q with
    | false =>
      rw [Host.setRegistry_of_absent given]
      exact ⟨[], m⟩
    | true =>
      refine ⟨[.registry (.reserve ⟨credential, endpoint, context⟩),
        .registry (.enter u.live.registry.nextId now)], m.setRegistry given ?_ rfl rfl⟩
      rw [← m.live_of_given given]
      exact Chronicle.live_register u.chronicle ⟨credential, endpoint, context⟩ now
  · exact ⟨[], m.setRegistry_of_ne own _⟩

theorem advance (ordered : h.Ordered) {n : Nat} {s : Seat} (there : h.seats.get? n = some s)
    (event : Client.Event) :
    ∃ events, (u.run events).Mirrors (h.advance n s event) r period := by
  by_cases own : s.registry = r
  · obtain ⟨t, living, keys, alike⟩ := m.seats n s there own
    have given := own ▸ ordered.seated n s there
    have live := m.live_of_given given
    obtain ⟨after, changed⟩ := alike.step (u.usable t.keys) u.live event
    refine ⟨[.client n event], ?_⟩
    -- The registry goes first; the resident follows.
    have moved : Mirrors { u with chronicle := (u.step (.client n event)).chronicle }
        (h.setRegistry r (t.client.step (u.usable t.keys) u.live event).2) r period :=
      m.setRegistry given (live_client living event) rfl rfl
    have there' : (h.setRegistry r
        (t.client.step (u.usable t.keys) u.live event).2).seats.get? n = some s := by
      rwa [Host.seats_setRegistry]
    rw [Host.advance, ← m.usable_eq, ← keys, own, ← live, changed,
      Host.setClient_of_seat there']
    rw [run_cons, run_nil, step_client living]
    rw [step_client living] at moved
    exact moved.putResident fun _ => ⟨keys, after⟩
  · have elsewhere := m.setRegistry_of_ne own
      (s.client.step (h.usable s.keys) (h.registry s.registry) event).2
    exact ⟨[], elsewhere.setClient (by rwa [Host.seats_setRegistry]) fun same => absurd same own⟩

theorem stir (ordered : h.Ordered) (stir : h.Stir h') :
    ∃ events, (u.run events).Mirrors h' r period := by
  cases stir with
  | task q g event => exact m.task q g event
  | unregister q unregistered => exact m.unregister q unregistered
  | client event there => exact m.advance ordered there event
  | aside there alike _ => exact ⟨[], m.setClient there fun _ => alike⟩

theorem setKeys (number : Nat) (keys : AuthorityKeys) :
    ∃ events, (u.run events).Mirrors (h.setKeys number keys) r period := by
  unfold Host.setKeys
  split
  · exact ⟨[.keys number keys], m.putKeys number keys⟩
  · exact ⟨[], m⟩

omit [Scheme] in
theorem found (ordered : h.Ordered) {p : Nat}
    (own : ∀ l, (h.addRegistry (.make p)).1.registries.get? r = some l → l.period = period) :
    u.Mirrors (h.addRegistry (.make p)).1 r period where
  live := by
    rw [m.live, Host.addRegistry, Table.get?_put]
    split
    · next same =>
      have made := own (.make p) (by rw [Host.addRegistry, Table.get?_put, if_pos same])
      rw [same, ordered.registries.get?_size, ← made]
      rfl
    · rfl
  keySets := m.keySets
  numbers := m.numbers
  seats := m.seats

theorem move (ordered : h.Ordered) (move : h.Move h')
    (own : ∀ l, h'.registries.get? r = some l → l.period = period) :
    ∃ events, (u.run events).Mirrors h' r period := by
  cases move with
  | stir stir => exact m.stir ordered stir
  | provide keys => exact ⟨[.keys h.keySets.size keys], m.putKeys h.keySets.size keys⟩
  | pin number key => exact m.setKeys number _
  | apply number manifest now => exact m.setKeys number _
  | found p => exact ⟨[], m.found ordered own⟩
  | register q credential endpoint context now => exact m.register q credential endpoint context now
  | update q updated => exact m.update q updated
  | arrive f identity keys owns now given =>
    refine ⟨[.arrive f identity keys now], ?_⟩
    have size : u.residents.size = h.seats.size := by
      rw [Table.size_eq, m.numbers, ← Table.size_eq]
    rw [run_cons, run_nil, step, size]
    exact m.putResident fun _ => ⟨rfl, .refl _⟩
  | call outbound there =>
    exact ⟨[], m.setClient there fun _ => { Client.Alike.refl _ with }⟩
  | abandon there => exact ⟨[], m.putSeat there rfl rfl fun _ => .refl _⟩

end Mirrors

end Upkeep

namespace Host

variable [Scheme] {h : Host} {r : Nat} {l : LiveRegistry}

theorem Leads.mirrored (leads : empty.Leads h) {period : Nat}
    (own : ∀ l, h.registries.get? r = some l → l.period = period) :
    ∃ events, ((Upkeep.start period).run events).Mirrors h r period := by
  induction leads with
  | refl => exact ⟨[], Upkeep.mirrors_start r period⟩
  | @tail h₀ _ before move ih =>
    have ordered := (Leads.persists before ordered_empty).ordered
    have earlier l (there : h₀.registries.get? r = some l) : l.period = period := by
      obtain ⟨l', there', same⟩ := (move.persists ordered).registries r l there
      exact same.symm.trans (own l' there')
    obtain ⟨events, mirrors⟩ := ih earlier
    obtain ⟨more, mirrors⟩ := mirrors.move ordered move own
    rw [← Upkeep.run_append] at mirrors
    exact ⟨events ++ more, mirrors⟩

/-- Every registry of a host is the registry of an upkeep. -/
theorem Leads.upkeep (leads : empty.Leads h) (there : h.registries.get? r = some l) :
    ∃ events, ((Upkeep.start l.period).run events).Mirrors h r l.period := by
  refine leads.mirrored fun l' there' => ?_
  cases there.symm.trans there'
  rfl

theorem Leads.chronicle (leads : empty.Leads h) (there : h.registries.get? r = some l) :
    ∃ c : Chronicle, c.live = l ∧ c.Lifecycle ∧ c.Agreement := by
  obtain ⟨events, mirrors⟩ := leads.upkeep there
  have sound := ((Upkeep.proper_start l.period).run events).sound
  refine ⟨_, ?_, sound.lifecycle, sound.agreement⟩
  have live := mirrors.live
  rw [there] at live
  exact live

end Host

end Warrant

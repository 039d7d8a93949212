import Warrant.Proofs.Client.ClosureLaws
import Warrant.Proofs.Disable.VigilLaws
import Warrant.Proofs.Host.MoveLaws

namespace Warrant

/-! ### The monitor -/

namespace Vigil

variable [Scheme] {h h' : Host} {n : Nat} {s : Seat}

theorem run_append (v : Vigil) (before after : List Event) :
    v.run (before ++ after) = (v.run before).run after :=
  List.foldl_append

omit [Scheme] in
theorem ofClient?_of_alike {c d : Client} (alike : c.Alike d) (keys : AuthorityKeys) :
    ofClient? keys d = ofClient? keys c := by
  unfold ofClient?
  rw [alike.monitor]
  cases monitor : c.monitor with
  | none => rfl
  | some m => rw [Option.map_some, Option.map_some, alike.isDisabled (by simp [monitor])]

theorem ofClient?_deliver (keys : AuthorityKeys) (c : Client) :
    ofClient? keys c.deliver = (ofClient? keys c).map (·.step .ask) ∨
      ofClient? keys c.deliver = ofClient? keys c := by
  unfold Client.deliver
  cases monitor : c.monitor with
  | none => exact .inr rfl
  | some m =>
    simp only
    split
    · exact .inl (by simp [ofClient?, monitor, step])
    · exact .inr rfl

/-- Of all that a client's events are about, its monitor is told of the checks and of the signals
that are taken up. -/
theorem ofClient?_step (keys : AuthorityKeys) (c : Client) (l : LiveRegistry)
    (event : Client.Event) :
    ∃ events, ofClient? keys (c.step (fun wall => keys.usable (.ofSecond wall)) l event).1 =
      (ofClient? keys c).map (·.run events) := by
  obtain ⟨records, wall, rfl⟩ | rfl | ⟨monitor, isDisabled⟩ := (c.step_aside _ l event).2
  · exact ⟨[.check ⟨records, .ofSecond wall, wall⟩],
      ofClient?_checkRecords keys c ⟨records, .ofSecond wall, wall⟩⟩
  · obtain asked | same := ofClient?_deliver keys c
    · exact ⟨[.ask], asked⟩
    · exact ⟨[], same.trans Option.map_id'.symm⟩
  · refine ⟨[], ?_⟩
    rw [ofClient?, monitor, isDisabled]
    exact Option.map_id'.symm

def ofSeat? (h : Host) (n : Nat) : Option Vigil :=
  (h.seats.get? n).bind fun s => ofClient? (h.keySet s.keys) s.client

omit [Scheme] in
theorem ofSeat?_of_seat (there : h.seats.get? n = some s) :
    ofSeat? h n = ofClient? (h.keySet s.keys) s.client := by
  rw [ofSeat?, there, Option.bind_some]

omit [Scheme] in
theorem ofSeat?_congr (keys : h'.keySets = h.keySets) (seats : h'.seats = h.seats) :
    ofSeat? h' n = ofSeat? h n := by
  simp only [ofSeat?, Host.keySet, keys, seats]

omit [Scheme] in
@[simp] theorem ofSeat?_setRegistry (h : Host) (r : Nat) (l : LiveRegistry) (n : Nat) :
    ofSeat? (h.setRegistry r l) n = ofSeat? h n :=
  ofSeat?_congr (by simp) (by simp)

def Kept (h : Host) (n : Nat) (h' : Host) : Prop :=
  ∃ events, ofSeat? h' n = (ofSeat? h n).map (·.run events)

theorem Kept.of_eq (same : ofSeat? h' n = ofSeat? h n) : Kept h n h' :=
  ⟨[], same.trans Option.map_id'.symm⟩

theorem kept_put {m : Nat} {t t' : Seat} (there : h.seats.get? m = some t)
    (keys : t'.keys = t.keys)
    (kept : ∃ events, ofClient? (h.keySet t.keys) t'.client =
      (ofClient? (h.keySet t.keys) t.client).map (·.run events)) :
    Kept h n { h with seats := h.seats.put m t' } := by
  by_cases own : n = m
  · subst own
    obtain ⟨events, same⟩ := kept
    refine ⟨events, ?_⟩
    rw [ofSeat?_of_seat there, ← same, ← keys]
    exact ofSeat?_of_seat (Table.get?_put_self ..)
  · refine .of_eq ?_
    simp only [ofSeat?, Table.get?_put, if_neg own]
    rfl

theorem kept_setClient {m : Nat} {t : Seat} {c : Client} (there : h.seats.get? m = some t)
    (kept : ∃ events, ofClient? (h.keySet t.keys) c =
      (ofClient? (h.keySet t.keys) t.client).map (·.run events)) :
    Kept h n (h.setClient m c) := by
  rw [Host.setClient_of_seat there]
  exact kept_put there rfl kept

theorem kept_setKeys (there : h.seats.get? n = some s) {number : Nat} {keys : AuthorityKeys}
    (event : Event)
    (changed : ∀ v : Vigil, v.keys = h.keySet number → v.step event = { v with keys }) :
    Kept h n (h.setKeys number keys) := by
  unfold Host.setKeys
  split
  · by_cases own : s.keys = number
    · subst own
      refine ⟨[event], ?_⟩
      simp only [ofSeat?, there, Option.bind_some, Host.keySet, Table.get?_put_self,
        Option.getD_some, ofClient?, Option.map_map]
      congr 1
      funext monitor
      exact (changed ⟨h.keySet s.keys, monitor, s.client.isDisabled⟩ rfl).symm
    · refine .of_eq ?_
      simp only [ofSeat?, there, Option.bind_some, Host.keySet, Table.get?_put, if_neg own]
  · exact .of_eq rfl

theorem kept_stir (stir : h.Stir h') : Kept h n h' := by
  cases stir with
  | task r g event => exact .of_eq (by simp)
  | unregister r _ => exact .of_eq (by simp)
  | @client m t event there =>
    have kept := ofClient?_step (h.keySet t.keys) t.client (h.registry t.registry) event
    have moved (l : LiveRegistry) := kept_setClient (h := h.setRegistry t.registry l) (n := n)
      (by rwa [Host.seats_setRegistry]) (by rwa [Host.keySet_setRegistry])
    obtain ⟨events, same⟩ := moved
      (t.client.step (h.usable t.keys) (h.registry t.registry) event).2
    rw [ofSeat?_setRegistry] at same
    exact ⟨events, same⟩
  | aside there alike _ =>
    exact kept_setClient there ⟨[], (ofClient?_of_alike alike _).trans Option.map_id'.symm⟩

theorem kept_move (ordered : h.Ordered) (there : h.seats.get? n = some s)
    (given : h.keySets.contains s.keys = true) (move : h.Move h') : Kept h n h' := by
  cases move with
  | stir stir => exact kept_stir stir
  | provide keys =>
    refine .of_eq ?_
    have other : s.keys ≠ h.keySets.size := by
      rintro same
      rw [same, Table.contains, ordered.keySets.get?_size] at given
      contradiction
    simp only [ofSeat?, there, Option.bind_some, Host.keySet, Host.addKeys, Table.get?_put,
      if_neg other]
  | pin number key =>
    exact kept_setKeys there (.pin key) fun v same => by rw [step, same]
  | apply number m now =>
    exact kept_setKeys there (.apply m now) fun v same => by rw [step, same]
  | found period => exact .of_eq rfl
  | register r credential endpoint context now => exact .of_eq (by simp)
  | update r _ => exact .of_eq (by simp)
  | arrive f identity keys owns now _ =>
    refine .of_eq ?_
    have other : n ≠ h.seats.size := by
      rintro same
      cases (same ▸ ordered.seats.get?_size).symm.trans there
    simp only [ofSeat?, Table.get?_put, if_neg other]
    rfl
  | call outbound there => exact kept_setClient there ⟨[], Option.map_id'.symm⟩
  | abandon there => exact kept_put there rfl ⟨[], Option.map_id'.symm⟩

end Vigil

namespace Host

variable [Scheme] {h h' : Host} {n : Nat} {s : Seat}

/-- Whatever becomes of a host, the monitor of a client keeps vigil with the keys of its seat. -/
theorem Leads.vigil (leads : h.Leads h') (ordered : h.Ordered)
    (there : h.seats.get? n = some s) (given : h.keySets.contains s.keys = true) :
    ∃ events, Vigil.ofSeat? h' n = (Vigil.ofSeat? h n).map (·.run events) := by
  induction leads with
  | refl => exact ⟨[], Option.map_id'.symm⟩
  | tail before move ih =>
    obtain ⟨events, same⟩ := ih
    have persists := Leads.persists before ordered
    obtain ⟨s', there', keys, -⟩ := persists.seats n s there
    have given' := persists.keySets s.keys given
    rw [← keys] at given'
    obtain ⟨more, same'⟩ := Vigil.kept_move persists.ordered there' given' move
    refine ⟨events ++ more, ?_⟩
    rw [same', same, Option.map_map]
    congr 1
    funext v
    exact (v.run_append events more).symm

/-! ### What outbound calls go by -/

theorem Stir.keySets (stir : h.Stir h') : h'.keySets = h.keySets := by
  cases stir with
  | client event there => rw [advance, keySets_setClient, keySets_setRegistry]
  | _ => simp

theorem Stirs.keySets (stirs : h.Stirs h') : h'.keySets = h.keySets := by
  induction stirs with
  | refl => rfl
  | tail _ stir ih => exact stir.keySets.trans ih

theorem Stir.outbound (stir : h.Stir h') (there : h.seats.get? n = some s) :
    ∃ s', h'.seats.get? n = some s' ∧ s'.keys = s.keys ∧
      s'.client.outbound = s.client.outbound := by
  have changed {m : Nat} {t : Seat} {c : Client} (seat : h.seats.get? m = some t)
      (same : c.outbound = t.client.outbound) :
      ∃ s', (h.setClient m c).seats.get? n = some s' ∧ s'.keys = s.keys ∧
        s'.client.outbound = s.client.outbound := by
    rw [get?_setClient_eq]
    split
    · next own =>
      subst own
      cases there.symm.trans seat
      exact ⟨{ s with client := c }, by rw [there, Option.map_some], rfl, same⟩
    · exact ⟨s, there, rfl, rfl⟩
  cases stir with
  | task r g event => exact ⟨s, by rwa [seats_setRegistry], rfl, rfl⟩
  | unregister r _ => exact ⟨s, by rwa [seats_setRegistry], rfl, rfl⟩
  | @client m t event seat =>
    rw [advance, ← setRegistry_setClient, seats_setRegistry]
    exact changed seat (t.client.step_aside _ _ event).1
  | aside seat _ same => exact changed seat same

theorem Stirs.outbound (stirs : h.Stirs h') (there : h.seats.get? n = some s) :
    ∃ s', h'.seats.get? n = some s' ∧ s'.keys = s.keys ∧
      s'.client.outbound = s.client.outbound := by
  induction stirs with
  | refl => exact ⟨s, there, rfl, rfl⟩
  | tail _ stir ih =>
    obtain ⟨s', there', keys', same'⟩ := ih
    obtain ⟨s'', there'', keys'', same''⟩ := stir.outbound there'
    exact ⟨s'', there'', keys''.trans keys', same''.trans same'⟩

/-! ### Joining and leaving -/

theorem join_attempt (v : Venture) {f : Founding} {identity : Identity} {r : Nat}
    (given : h.registries.contains r = true)
    (started : Founding.start v.config v.keys v.records v.now = .ok f)
    (admitted : v.admitted f = .ok identity) :
    ∃ c, v.attempt (h.registry r) =
        ((h.join f identity (some r) v.endpoint v.context v.clock).1.registry r, .ok c) ∧
      (h.join f identity (some r) v.endpoint v.context v.clock).1.client? h.seats.size =
        some c := by
  refine ⟨(f.join identity (h.registry r) v.endpoint v.context v.clock).1, ?_, ?_⟩
  · simp only [Venture.attempt, started, admitted]
    exact Prod.ext (registry_setRegistry h given _).symm rfl
  · simp [join, client?]

end Host

theorem Closedown.step_call_proceed [Scheme] {a : Handle} (s : Closedown) :
    (s.step (h := a) .call).step (h := a) (.proceed s.calls.length) =
      ⟨(s.client.close s.live).1, (s.client.close s.live).2.1,
        s.calls ++ [.returned (s.client.close s.live).2.2]⟩ := by
  simp only [step, Client.close]
  cases began : s.client.startClosing with
  | mk client rest =>
    cases rest with
    | done =>
      simp only [Client.Closing.finish]
      rw [List.getElem?_append_right (Nat.le_refl _)]
      simp
    | releasing handle =>
      simp only [List.getElem?_append_right (Nat.le_refl _), Nat.sub_self,
        List.getElem?_cons_zero, settle, List.set_append_right _ _ (Nat.le_refl _),
        List.set_cons_zero]

theorem Host.close_commons [Scheme] {h : Host} {n k : Nat} {s : Seat} {t : Commons}
    (there : h.seats.get? n = some s) (given : h.registries.contains s.registry = true)
    (live : t.live = h.registry s.registry) (among : t.clients[k]? = some s.client) :
    (h.close n).1.registry s.registry = (t.step (.close k)).live ∧
      (h.close n).1.client? n = ((t.step (.close k)).clients[k]?).map Client.settle := by
  have seated (l : LiveRegistry) : (h.setRegistry s.registry l).seats.get? n = some s := by
    rwa [seats_setRegistry]
  obtain ⟨within, -⟩ := List.getElem?_eq_some_iff.1 among
  simp only [Commons.step, among, live, close, there]
  constructor
  · rw [registry_setClient, registry_setRegistry h given]
  · rw [client?, get?_setClient (seated _), List.getElem?_set_self within]
    rfl

end Warrant

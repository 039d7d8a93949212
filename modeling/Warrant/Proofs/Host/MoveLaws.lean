import Warrant.Host
import Warrant.Proofs.Upkeep

/-!
What happens to a host, one thing at a time: everything that can be done with a host, and everything
that its tasks do, is made of such moves.
-/

namespace Warrant

/-! ### Numbers that are given in order -/

namespace Table

variable {α : Type}

def Numbered (t : Table Nat α) : Prop :=
  t.keys = List.range t.size

theorem numbered_empty : (∅ : Table Nat α).Numbered := rfl

theorem size_eq (t : Table Nat α) : t.size = t.keys.length := by
  simp [size, keys]

theorem contains_put {t : Table Nat α} (k : Nat) (a : α) {n : Nat} (given : t.contains n = true) :
    (t.put k a).contains n = true := by
  rw [contains, get?_put]
  split
  · rfl
  · exact given

theorem Numbered.get?_isSome_iff {t : Table Nat α} (h : t.Numbered) {n : Nat} :
    (t.get? n).isSome ↔ n < t.size := by
  rw [← List.mem_range, ← h, mem_keys_iff, Option.isSome_iff_exists]

theorem Numbered.get?_size {t : Table Nat α} (h : t.Numbered) : t.get? t.size = none := by
  rw [← Option.not_isSome_iff_eq_none, h.get?_isSome_iff]
  exact Nat.lt_irrefl _

theorem Numbered.keys_put {t : Table Nat α} (h : t.Numbered) {n : Nat} (there : n < t.size)
    (a : α) : (t.put n a).keys = t.keys := by
  rw [Table.keys_put, if_pos]
  rw [h]
  exact List.mem_range.2 there

theorem Numbered.keys_put_size {t : Table Nat α} (h : t.Numbered) (a : α) :
    (t.put t.size a).keys = t.keys ++ [t.size] := by
  rw [Table.keys_put, if_neg]
  rw [h]
  exact List.not_mem_range_self

theorem Numbered.size_put {t : Table Nat α} (h : t.Numbered) {n : Nat} (there : n < t.size)
    (a : α) : (t.put n a).size = t.size := by
  rw [size_eq, h.keys_put there, ← size_eq]

theorem Numbered.size_put_size {t : Table Nat α} (h : t.Numbered) (a : α) :
    (t.put t.size a).size = t.size + 1 := by
  rw [size_eq (t.put t.size a), h.keys_put_size, List.length_append, ← size_eq]
  rfl

theorem Numbered.put {t : Table Nat α} (h : t.Numbered) {n : Nat} (there : n < t.size) (a : α) :
    (t.put n a).Numbered := by
  rw [Numbered, h.keys_put there, h.size_put there]
  exact h

theorem Numbered.put_size {t : Table Nat α} (h : t.Numbered) (a : α) :
    (t.put t.size a).Numbered := by
  rw [Numbered, h.keys_put_size, h.size_put_size, List.range_succ, ← h]

end Table

/-! ### Clients that differ in nothing that their events are about -/

namespace Client

structure Alike (c d : Client) : Prop where
  config : d.config = c.config
  identity : d.identity = c.identity
  monitor : d.monitor = c.monitor
  /-- Without a monitor nothing depends on it. -/
  isDisabled : c.monitor ≠ none → d.isDisabled = c.isDisabled
  recoveries : d.recoveries = c.recoveries
  stopping : d.stopping = c.stopping
  closed : d.closed = c.closed

namespace Alike

variable {c d e : Client}

theorem refl (c : Client) : c.Alike c :=
  ⟨rfl, rfl, rfl, fun _ => rfl, rfl, rfl, rfl⟩

theorem trans (h : c.Alike d) (g : d.Alike e) : c.Alike e where
  config := g.config.trans h.config
  identity := g.identity.trans h.identity
  monitor := g.monitor.trans h.monitor
  isDisabled monitored := (g.isDisabled (h.monitor ▸ monitored)).trans (h.isDisabled monitored)
  recoveries := g.recoveries.trans h.recoveries
  stopping := g.stopping.trans h.stopping
  closed := g.closed.trans h.closed

theorem withRecoveries (h : c.Alike d) (recoveries : Recoveries) :
    Alike { c with recoveries } { d with recoveries } :=
  { h with recoveries := rfl }

theorem setRecovery (h : c.Alike d) (number : Nat) (next : Recovery) :
    (c.setRecovery number next).Alike (d.setRecovery number next) := by
  rw [Client.setRecovery, Client.setRecovery, h.recoveries]
  exact h.withRecoveries _

theorem credential?_eq (h : c.Alike d) (r : Registry) : d.credential? r = c.credential? r := by
  rw [credential?, credential?, h.identity]

theorem retry_eq (h : c.Alike d) : d.retry = c.retry := by
  rw [retry, retry, h.config]

theorem deliver (h : c.Alike d) : c.deliver.Alike d.deliver := by
  unfold Client.deliver
  rw [h.monitor]
  cases monitor : c.monitor with
  | none => exact h
  | some m =>
    simp only [h.recoveries]
    split
    · exact { h with
        monitor := rfl
        isDisabled := fun _ => h.isDisabled (by simp [monitor])
        recoveries := rfl }
    · exact h

theorem stop (h : c.Alike d) : c.stop.Alike d.stop :=
  { h with stopping := rfl }

theorem startClosing (h : c.Alike d) : c.startClosing.1.Alike d.startClosing.1 := by
  unfold Client.startClosing
  rw [h.closed, h.identity]
  split
  · exact h
  · split <;> exact { h.stop with closed := rfl }

theorem installRecovered (h : c.Alike d) (number : Nat) (l : LiveRegistry) (now : Nat) :
    (c.installRecovered number l now).1.Alike (d.installRecovered number l now).1 ∧
      (d.installRecovered number l now).2 = (c.installRecovered number l now).2 := by
  unfold Client.installRecovered
  rw [h.identity, h.recoveries, h.retry_eq]
  split
  · exact ⟨h.setRecovery .., rfl⟩
  · exact ⟨h, rfl⟩

variable [Scheme]

theorem checkRecords (h : c.Alike d) (records : DisableMonitor.Records) (usable : List PublicKey)
    (wall : Int64) :
    (c.checkRecords records usable wall).1.Alike (d.checkRecords records usable wall).1 := by
  unfold Client.checkRecords
  rw [h.monitor]
  cases monitor : c.monitor with
  | none => exact h
  | some m =>
    simp only [h.isDisabled (by simp [monitor])]
    exact { h with monitor := rfl, isDisabled := fun _ => rfl }

theorem step (h : c.Alike d) (usable : Int64 → List PublicKey) (l : LiveRegistry)
    (event : Event) :
    (c.step usable l event).1.Alike (d.step usable l event).1 ∧
      (d.step usable l event).2 = (c.step usable l event).2 := by
  cases event with
  | check records wall => exact ⟨h.checkRecords .., rfl⟩
  | deliver => exact ⟨h.deliver, rfl⟩
  | wake number =>
    refine ⟨?_, rfl⟩
    simp only [Client.step, wakeRecovery, h.recoveries]
    split
    · exact h.setRecovery ..
    · exact h
  | health number now key serial wall reply =>
    refine ⟨?_, rfl⟩
    simp only [Client.step, healthReplied, h.recoveries, h.credential?_eq, h.retry_eq]
    split
    · exact h.setRecovery ..
    · exact h
  | sign number now wall reply =>
    refine ⟨?_, rfl⟩
    simp only [Client.step, signReplied, h.recoveries, h.retry_eq]
    split
    · exact h.setRecovery ..
    · exact h
  | install number now => exact h.installRecovered number l now
  | dismiss number =>
    refine ⟨?_, rfl⟩
    simp only [Client.step, dismissRecovery, h.recoveries, h.stopping]
    split
    · split
      · exact h.setRecovery ..
      · exact h
    · exact h
  | leave number =>
    refine ⟨?_, rfl⟩
    simp only [Client.step, endRecovery, h.recoveries]
    exact h.withRecoveries _
  | close => exact ⟨h.startClosing, rfl⟩
  | drop => exact ⟨h.stop, rfl⟩

end Alike

/-- A monitor is told of checks, and asked when a signal is delivered. -/
theorem step_aside [Scheme] (c : Client) (usable : Int64 → List PublicKey) (l : LiveRegistry)
    (event : Event) :
    (c.step usable l event).1.outbound = c.outbound ∧
      ((∃ records wall, event = .check records wall) ∨ event = .deliver ∨
        (c.step usable l event).1.monitor = c.monitor ∧
          (c.step usable l event).1.isDisabled = c.isDisabled) := by
  cases event with
  | check records wall =>
    refine ⟨?_, .inl ⟨records, wall, rfl⟩⟩
    rw [Client.step, Client.checkRecords]
    split <;> rfl
  | deliver =>
    refine ⟨?_, .inr (.inl rfl)⟩
    rw [Client.step, Client.deliver]
    split
    · split <;> rfl
    · rfl
  | wake number =>
    rw [Client.step, Client.wakeRecovery]
    split <;> exact ⟨rfl, .inr (.inr ⟨rfl, rfl⟩)⟩
  | health number now key serial wall reply =>
    rw [Client.step, Client.healthReplied]
    split <;> exact ⟨rfl, .inr (.inr ⟨rfl, rfl⟩)⟩
  | sign number now wall reply =>
    rw [Client.step, Client.signReplied]
    split <;> exact ⟨rfl, .inr (.inr ⟨rfl, rfl⟩)⟩
  | install number now =>
    rw [Client.step, Client.installRecovered]
    split <;> exact ⟨rfl, .inr (.inr ⟨rfl, rfl⟩)⟩
  | dismiss number =>
    rw [Client.step, Client.dismissRecovery]
    split
    · split <;> exact ⟨rfl, .inr (.inr ⟨rfl, rfl⟩)⟩
    · exact ⟨rfl, .inr (.inr ⟨rfl, rfl⟩)⟩
  | leave number => exact ⟨rfl, .inr (.inr ⟨rfl, rfl⟩)⟩
  | close =>
    rw [Client.step, Client.startClosing]
    split
    · exact ⟨rfl, .inr (.inr ⟨rfl, rfl⟩)⟩
    · split <;> exact ⟨rfl, .inr (.inr ⟨rfl, rfl⟩)⟩
  | drop => exact ⟨rfl, .inr (.inr ⟨rfl, rfl⟩)⟩

theorem monitor_step [Scheme] {c : Client} (absent : c.monitor = none)
    (usable : Int64 → List PublicKey) (l : LiveRegistry) (event : Event) :
    (c.step usable l event).1.monitor = none := by
  obtain ⟨records, wall, rfl⟩ | rfl | ⟨same, -⟩ := (c.step_aside usable l event).2
  · simp only [Client.step, Client.checkRecords, absent]
  · simp only [Client.step, Client.deliver, absent]
  · exact same.trans absent

theorem period_step [Scheme] (c : Client) (usable : Int64 → List PublicKey) (l : LiveRegistry)
    (event : Event) : (c.step usable l event).2.period = l.period := by
  rw [step_registry]
  split
  · split
    · next updated =>
      obtain ⟨_, -, -, rfl⟩ := LiveRegistry.update_eq_ok_iff.1 updated
      rfl
    · rfl
  · rfl

end Client

namespace Host

variable {h h' : Host}

/-! ### What can be seen of a host -/

@[simp] theorem registry_setClient (h : Host) (n : Nat) (c : Client) (r : Nat) :
    (h.setClient n c).registry r = h.registry r := by
  unfold setClient
  split <;> rfl

@[simp] theorem registries_setClient (h : Host) (n : Nat) (c : Client) :
    (h.setClient n c).registries = h.registries := by
  unfold setClient
  split <;> rfl

@[simp] theorem keySets_setClient (h : Host) (n : Nat) (c : Client) :
    (h.setClient n c).keySets = h.keySets := by
  unfold setClient
  split <;> rfl

@[simp] theorem seats_setRegistry (h : Host) (r : Nat) (l : LiveRegistry) :
    (h.setRegistry r l).seats = h.seats := by
  unfold setRegistry
  split <;> rfl

@[simp] theorem keySets_setRegistry (h : Host) (r : Nat) (l : LiveRegistry) :
    (h.setRegistry r l).keySets = h.keySets := by
  unfold setRegistry
  split <;> rfl

@[simp] theorem keySet_setRegistry (h : Host) (r : Nat) (l : LiveRegistry) (number : Nat) :
    (h.setRegistry r l).keySet number = h.keySet number := by
  simp [keySet]

theorem setClient_of_seat {n : Nat} {s : Seat} (there : h.seats.get? n = some s) (c : Client) :
    h.setClient n c = { h with seats := h.seats.put n { s with client := c } } := by
  simp only [setClient, there]

theorem seats_setClient {n : Nat} {s : Seat} (there : h.seats.get? n = some s) (c : Client) :
    (h.setClient n c).seats = h.seats.put n { s with client := c } := by
  rw [setClient_of_seat there]

theorem get?_setClient {n : Nat} {s : Seat} (there : h.seats.get? n = some s) (c : Client) :
    (h.setClient n c).seats.get? n = some { s with client := c } := by
  rw [seats_setClient there, Table.get?_put_self]

theorem get?_setClient_eq (h : Host) (m : Nat) (c : Client) (n : Nat) :
    (h.setClient m c).seats.get? n =
      if n = m then (h.seats.get? m).map fun s => { s with client := c } else h.seats.get? n := by
  cases there : h.seats.get? m with
  | some s => rw [seats_setClient there, Table.get?_put, Option.map_some]
  | none =>
    simp only [setClient, there, Option.map_none]
    split
    · next same => rw [same, there]
    · rfl

theorem get?_setRegistry (h : Host) (r : Nat) (l : LiveRegistry) (n : Nat) :
    (h.setRegistry r l).registries.get? n =
      if n = r ∧ h.registries.contains r = true then some l else h.registries.get? n := by
  unfold setRegistry
  split
  · next given => simp only [Table.get?_put, given, and_true]
  · next absent => simp [absent]

theorem registry_setRegistry (h : Host) {r : Nat} (given : h.registries.contains r = true)
    (l : LiveRegistry) : (h.setRegistry r l).registry r = l := by
  rw [registry, get?_setRegistry, if_pos ⟨rfl, given⟩]
  rfl

theorem setRegistry_self (h : Host) (r : Nat) : h.setRegistry r (h.registry r) = h := by
  unfold setRegistry
  split
  · next given =>
    obtain ⟨l, there⟩ := Option.isSome_iff_exists.1 given
    rw [registry, there, Option.getD_some, Table.put_of_get? there]
  · rfl

theorem setRegistry_of_absent {r : Nat} (absent : h.registries.contains r = false)
    (l : LiveRegistry) : h.setRegistry r l = h := by
  rw [setRegistry, absent]
  rfl

theorem contains_setRegistry (h : Host) (r : Nat) (l : LiveRegistry) (n : Nat) :
    (h.setRegistry r l).registries.contains n = h.registries.contains n := by
  rw [Table.contains, get?_setRegistry]
  split
  · next same => rw [same.1, same.2, Option.isSome_some]
  · rfl

theorem setRegistry_setRegistry (h : Host) (r : Nat) (l l' : LiveRegistry) :
    (h.setRegistry r l).setRegistry r l' = h.setRegistry r l' := by
  unfold setRegistry
  split
  · next given =>
    have still : (h.registries.put r l).contains r = true := by
      rw [Table.contains, Table.get?_put_self]
      rfl
    simp only [still, if_true, Table.put_put]
  · rfl

theorem setClient_self {n : Nat} {s : Seat} (there : h.seats.get? n = some s) :
    h.setClient n s.client = h := by
  simp only [setClient, there, Table.put_of_get? there]

theorem setClient_setClient (h : Host) (n : Nat) (c d : Client) :
    (h.setClient n c).setClient n d = h.setClient n d := by
  cases there : h.seats.get? n with
  | none => simp only [setClient, there]
  | some s => simp only [setClient, there, Table.get?_put_self, Table.put_put]

theorem setRegistry_setClient (h : Host) (n r : Nat) (c : Client) (l : LiveRegistry) :
    (h.setClient n c).setRegistry r l = (h.setRegistry r l).setClient n c := by
  cases there : h.seats.get? n with
  | none => simp only [setClient, there, seats_setRegistry]
  | some s =>
    have there' : (h.setRegistry r l).seats.get? n = some s := by rwa [seats_setRegistry]
    rw [setClient_of_seat there, setClient_of_seat there']
    unfold setRegistry
    split <;> rfl

/-! ### Moves -/

variable [Scheme]

def told (h : Host) (registry generation : Nat) (event : RefreshTask.Event) : RefreshTask.Event :=
  match (h.registry registry).tasks.get? generation with
  | some t => event.withKeys (h.usable t.context.keys)
  | none => event

def advance (h : Host) (n : Nat) (s : Seat) (event : Client.Event) : Host :=
  (h.setRegistry s.registry (s.client.step (h.usable s.keys) (h.registry s.registry) event).2)
    |>.setClient n (s.client.step (h.usable s.keys) (h.registry s.registry) event).1

/-- What goes on by itself. It changes neither the keys nor the claims that a client holds. -/
inductive Stir (h : Host) : Host → Prop
  | task (registry generation : Nat) (event : RefreshTask.Event) :
      Stir h (h.setRegistry registry
        ((h.registry registry).step generation (h.told registry generation event)))
  | unregister (registry : Nat) {handle : Handle} {l : LiveRegistry} :
      (h.registry registry).unregister handle = .ok l → Stir h (h.setRegistry registry l)
  | client {n : Nat} {s : Seat} (event : Client.Event) : h.seats.get? n = some s →
      Stir h (h.advance n s event)
  | aside {n : Nat} {s : Seat} {c : Client} : h.seats.get? n = some s → s.client.Alike c →
      c.outbound = s.client.outbound → Stir h (h.setClient n c)

inductive Move (h : Host) : Host → Prop
  | stir {h' : Host} : h.Stir h' → Move h h'
  | provide (keys : AuthorityKeys) : Move h (h.addKeys keys).1
  | pin (number : Nat) (key : PublicKey) :
      Move h (h.setKeys number ((h.keySet number).pin key))
  | apply (number : Nat) (m : Manifest) (now : Moment) :
      Move h (h.setKeys number ((h.keySet number).apply m now))
  | found (period : Nat) : Move h (h.addRegistry (.make period)).1
  | register (registry : Nat) (credential : Credential) (endpoint : String)
      (context : RefreshContext) (now : Nat) :
      Move h (h.setRegistry registry
        ((h.registry registry).register credential endpoint context now).1)
  | update (registry : Nat) {handle : Handle} {credential : Credential} {l : LiveRegistry} :
      (h.registry registry).update handle credential = .ok l → Move h (h.setRegistry registry l)
  | arrive (f : Founding) (identity : ActiveIdentity) (keys : Nat) {registry : Nat} (owns : Bool)
      (now : Nat) : h.registries.contains registry = true →
      Move h { h with
        seats := h.seats.put h.seats.size
          ⟨(f.finish identity now).1, keys, registry, owns, false⟩ }
  | call {n : Nat} {s : Seat} (outbound : Outbound) : h.seats.get? n = some s →
      Move h (h.setClient n { s.client with outbound })
  | abandon {n : Nat} {s : Seat} : h.seats.get? n = some s →
      Move h { h with seats := h.seats.put n { s with abandoned := true } }

def Stirs (h h' : Host) : Prop :=
  Relation.ReflTransGen Stir h h'

def Leads (h h' : Host) : Prop :=
  Relation.ReflTransGen Move h h'

theorem Stirs.leads (stirs : h.Stirs h') : h.Leads h' := by
  induction stirs with
  | refl => exact .refl
  | tail _ stir ih => exact ih.tail (.stir stir)

/-! ### What the moves keep -/

/-- Numbers are given in order, and every client's registry has been given one. -/
structure Ordered (h : Host) : Prop where
  keySets : h.keySets.Numbered
  registries : h.registries.Numbered
  seats : h.seats.Numbered
  seated : ∀ n s, h.seats.get? n = some s → h.registries.contains s.registry = true

/-- Nothing that there is goes away: registries keep their period, and seats what they were made
with. A client that has no monitor gets none. -/
structure Persists (h h' : Host) : Prop where
  ordered : h'.Ordered
  keySets : ∀ n, h.keySets.contains n = true → h'.keySets.contains n = true
  registries : ∀ r l, h.registries.get? r = some l →
    ∃ l', h'.registries.get? r = some l' ∧ l'.period = l.period
  seats : ∀ n s, h.seats.get? n = some s → ∃ s', h'.seats.get? n = some s' ∧
    s'.keys = s.keys ∧ s'.registry = s.registry ∧ s'.client.config = s.client.config ∧
    (s.client.monitor = none → s'.client.monitor = none)

omit [Scheme] in
theorem ordered_empty : empty.Ordered where
  keySets := Table.numbered_empty
  registries := Table.numbered_empty
  seats := Table.numbered_empty
  seated _ _ there := by
    rw [empty, Table.get?_empty] at there
    cases there

omit [Scheme] in
theorem Ordered.persists (ordered : h.Ordered) : h.Persists h :=
  ⟨ordered, fun _ => id, fun _ l there => ⟨l, there, rfl⟩,
    fun _ s there => ⟨s, there, rfl, rfl, rfl, id⟩⟩

omit [Scheme] in
theorem Persists.trans {h'' : Host} (first : h.Persists h') (second : h'.Persists h'') :
    h.Persists h'' where
  ordered := second.ordered
  keySets n given := second.keySets n (first.keySets n given)
  registries r l there := by
    obtain ⟨l', there', period⟩ := first.registries r l there
    obtain ⟨l'', there'', period'⟩ := second.registries r l' there'
    exact ⟨l'', there'', period'.trans period⟩
  seats n s there := by
    obtain ⟨s', there', keys, registry, config, monitor⟩ := first.seats n s there
    obtain ⟨s'', there'', keys', registry', config', monitor'⟩ := second.seats n s' there'
    exact ⟨s'', there'', keys'.trans keys, registry'.trans registry, config'.trans config,
      monitor' ∘ monitor⟩

section

variable (ordered : h.Ordered)
include ordered

omit [Scheme] in
theorem Ordered.persists_setRegistry (r : Nat) {l : LiveRegistry}
    (period : l.period = (h.registry r).period) : h.Persists (h.setRegistry r l) := by
  cases given : h.registries.contains r with
  | false =>
    rw [setRegistry_of_absent given]
    exact ordered.persists
  | true =>
    refine ⟨⟨by simpa using ordered.keySets, ?_, by simpa using ordered.seats, ?_⟩,
      by simp, ?_, ?_⟩
    · rw [setRegistry, if_pos given]
      exact ordered.registries.put (ordered.registries.get?_isSome_iff.1 given) l
    · intro n s there
      rw [seats_setRegistry] at there
      rw [contains_setRegistry]
      exact ordered.seated n s there
    · intro n m there
      rw [get?_setRegistry]
      split
      · next same =>
        refine ⟨l, rfl, ?_⟩
        rw [period, registry, ← same.1, there, Option.getD_some]
      · exact ⟨m, there, rfl⟩
    · intro n s there
      rw [seats_setRegistry]
      exact ⟨s, there, rfl, rfl, rfl, id⟩

omit [Scheme] in
theorem Ordered.persists_put {n : Nat} {s s' : Seat} (there : h.seats.get? n = some s)
    (registry : s'.registry = s.registry) (keys : s'.keys = s.keys)
    (config : s'.client.config = s.client.config)
    (monitor : s.client.monitor = none → s'.client.monitor = none) :
    h.Persists { h with seats := h.seats.put n s' } := by
  have given : n < h.seats.size := ordered.seats.get?_isSome_iff.1 (by rw [there]; rfl)
  refine ⟨⟨ordered.keySets, ordered.registries, ordered.seats.put given s', ?_⟩, fun _ => id,
    fun _ l there => ⟨l, there, rfl⟩, ?_⟩
  · intro m t found
    rw [Table.get?_put] at found
    split at found
    · cases found
      rw [registry]
      exact ordered.seated n s there
    · exact ordered.seated m t found
  · intro m t found
    rw [Table.get?_put]
    split
    · next same =>
      cases same
      cases there.symm.trans found
      exact ⟨s', rfl, keys, registry, config, monitor⟩
    · exact ⟨t, found, rfl, rfl, rfl, id⟩

omit [Scheme] in
theorem Ordered.persists_setClient {n : Nat} {s : Seat} {c : Client}
    (there : h.seats.get? n = some s) (config : c.config = s.client.config)
    (monitor : s.client.monitor = none → c.monitor = none) : h.Persists (h.setClient n c) := by
  rw [setClient_of_seat there]
  exact ordered.persists_put there rfl rfl config monitor

theorem Ordered.persists_advance {n : Nat} {s : Seat} (there : h.seats.get? n = some s)
    (event : Client.Event) : h.Persists (h.advance n s event) := by
  have kept := ordered.persists_setRegistry s.registry
    (s.client.period_step (h.usable s.keys) (h.registry s.registry) event)
  refine kept.trans (kept.ordered.persists_setClient (s := s) ?_ ?_ ?_)
  · rwa [seats_setRegistry]
  · exact (s.client.step_continues (h.usable s.keys) (h.registry s.registry) event).config
  · exact fun none => Client.monitor_step none (h.usable s.keys) (h.registry s.registry) event

theorem Stir.persists (stir : h.Stir h') : h.Persists h' := by
  cases stir with
  | task r g event =>
    refine ordered.persists_setRegistry r ?_
    rw [LiveRegistry.step]
    split <;> rfl
  | unregister r unregistered =>
    obtain ⟨_, -, -, rfl⟩ := LiveRegistry.unregister_eq_ok_iff.1 unregistered
    exact ordered.persists_setRegistry r rfl
  | client event there => exact ordered.persists_advance there event
  | aside there alike _ =>
    exact ordered.persists_setClient there alike.config fun none => alike.monitor.trans none

omit [Scheme] in
theorem Ordered.persists_found (l : LiveRegistry) : h.Persists (h.addRegistry l).1 where
  ordered :=
    { keySets := ordered.keySets
      registries := ordered.registries.put_size l
      seats := ordered.seats
      seated := fun n s there => Table.contains_put _ _ (ordered.seated n s there) }
  keySets _ := id
  registries r m there := by
    refine ⟨m, ?_, rfl⟩
    rw [addRegistry, Table.get?_put, if_neg, there]
    rintro rfl
    cases ordered.registries.get?_size.symm.trans there
  seats _ s there := ⟨s, there, rfl, rfl, rfl, id⟩

omit [Scheme] in
theorem Ordered.persists_arrive {s : Seat} (given : h.registries.contains s.registry = true) :
    h.Persists { h with seats := h.seats.put h.seats.size s } where
  ordered :=
    { keySets := ordered.keySets
      registries := ordered.registries
      seats := ordered.seats.put_size s
      seated := fun n t there => by
        rw [Table.get?_put] at there
        split at there
        · cases there
          exact given
        · exact ordered.seated n t there }
  keySets _ := id
  registries _ l there := ⟨l, there, rfl⟩
  seats n t there := by
    refine ⟨t, ?_, rfl, rfl, rfl, id⟩
    rw [Table.get?_put, if_neg, there]
    rintro rfl
    cases ordered.seats.get?_size.symm.trans there

omit [Scheme] in
theorem Ordered.persists_keySets {keySets : Table Nat AuthorityKeys} (numbered : keySets.Numbered)
    (stay : ∀ n, h.keySets.contains n = true → keySets.contains n = true) :
    h.Persists { h with keySets } :=
  ⟨⟨numbered, ordered.registries, ordered.seats, ordered.seated⟩, stay,
    fun _ l there => ⟨l, there, rfl⟩, fun _ s there => ⟨s, there, rfl, rfl, rfl, id⟩⟩

omit [Scheme] in
theorem Ordered.persists_addKeys (keys : AuthorityKeys) : h.Persists (h.addKeys keys).1 :=
  ordered.persists_keySets (ordered.keySets.put_size keys) fun _ => Table.contains_put _ _

omit [Scheme] in
theorem Ordered.persists_setKeys (number : Nat) (keys : AuthorityKeys) :
    h.Persists (h.setKeys number keys) := by
  unfold setKeys
  split
  · next given =>
    have there := ordered.keySets.get?_isSome_iff.1 given
    exact ordered.persists_keySets (ordered.keySets.put there keys) fun _ => Table.contains_put _ _
  · exact ordered.persists

theorem Move.persists (move : h.Move h') : h.Persists h' := by
  cases move with
  | stir stir => exact stir.persists ordered
  | provide keys => exact ordered.persists_addKeys keys
  | pin number key => exact ordered.persists_setKeys number _
  | apply number m now => exact ordered.persists_setKeys number _
  | found period => exact ordered.persists_found _
  | register r credential endpoint context now =>
    refine ordered.persists_setRegistry r ?_
    unfold LiveRegistry.register LiveRegistry.enter
    dsimp only
    split <;> rfl
  | update r updated =>
    obtain ⟨_, -, -, rfl⟩ := LiveRegistry.update_eq_ok_iff.1 updated
    exact ordered.persists_setRegistry r rfl
  | arrive f identity keys owns now given => exact ordered.persists_arrive given
  | call outbound there => exact ordered.persists_setClient there rfl id
  | abandon there => exact ordered.persists_put there rfl rfl rfl id

end

theorem Leads.persists (leads : h.Leads h') (ordered : h.Ordered) : h.Persists h' := by
  induction leads with
  | refl => exact ordered.persists
  | tail _ move ih => exact ih.trans (move.persists ih.ordered)

end Host

end Warrant

import Warrant.Proofs.Client.RecoveryLaws

/-!
Clients that share a registry. Each is made and closed by calls that may fail, while tasks and
recoveries go on in the background; the registry holds the handles of the clients that have not been
closed, and no others.
-/

namespace Warrant

theorem Table.eq_empty_of_get? {κ α : Type} [DecidableEq κ] {t : Table κ α}
    (none : ∀ k, t.get? k = none) : t = ∅ := by
  obtain ⟨_ | ⟨⟨k, a⟩, rest⟩⟩ := t
  · rfl
  · exact absurd List.mem_cons_self (get?_eq_none_iff.1 (none k))

/-! ### The handles of a registry -/

namespace Registry

def holders (r : Registry) (key : RegistryKey) : List Nat :=
  ((r.find? key).map Entry.handles).getD []

def Filled (r : Registry) : Prop :=
  ∀ key e, r.find? key = some e → e.handles ≠ []

structure KeepsHandles (r r' : Registry) : Prop where
  nextId : r'.nextId = r.nextId
  holders : ∀ key, r'.holders key = r.holders key
  filled : r.Filled → r'.Filled

/-- A new handle has been put under the key, and no other one been moved. -/
structure Admits (r r' : Registry) (key : RegistryKey) : Prop where
  nextId : r'.nextId = r.nextId + 1
  holders : ∀ k, r'.holders k = if k = key then r.holders k ++ [r.nextId] else r.holders k
  filled : r.Filled → r'.Filled

/-- The handle has been taken out of its entry, and nothing else been changed. -/
structure Releases (r r' : Registry) (h : Handle) : Prop where
  mem : h.id ∈ r.holders h.key
  nextId : r'.nextId = r.nextId
  copies : r'.copies = r.copies
  entries : ∀ key, r'.find? key =
    if key = h.key then (r.find? h.key).bind (without · h.id) else r.find? key

variable {r : Registry} {key : RegistryKey} {e : Entry}

theorem holders_of_find? (there : r.find? key = some e) : r.holders key = e.handles := by
  rw [holders, there]
  rfl

theorem holders_of_none (free : r.find? key = none) : r.holders key = [] := by
  rw [holders, free]
  rfl

theorem mem_holders_iff {id : Nat} :
    id ∈ r.holders key ↔ ∃ e, r.find? key = some e ∧ id ∈ e.handles := by
  cases there : r.find? key with
  | none => simp [holders_of_none there]
  | some e => simp [holders_of_find? there]

theorem handleCount_eq (r : Registry) (key : RegistryKey) :
    r.handleCount key = (r.holders key).length := by
  unfold handleCount holders
  cases r.find? key <;> rfl

theorem KeepsHandles.refl (r : Registry) : r.KeepsHandles r :=
  ⟨rfl, fun _ => rfl, id⟩

section

variable {r' : Registry} (put : ∀ k, r'.find? k = if k = key then some e else r.find? k)
include put

theorem holders_of_put (k : RegistryKey) :
    r'.holders k = if k = key then e.handles else r.holders k := by
  rw [holders, put]
  split <;> rfl

theorem filled_of_put (some : e.handles ≠ []) (filled : r.Filled) : r'.Filled := by
  unfold Filled
  simp only [put]
  refine forall_entry ?_ fun k _ => filled k
  rintro _ ⟨⟩
  exact some

end

theorem keepsHandles_install (there : r.find? key = some e) (credential : Credential) :
    r.KeepsHandles (r.install key e credential) where
  nextId := rfl
  holders k := by
    rw [holders_of_put (find?_install r key e credential)]
    split
    · next same => exact same ▸ (holders_of_find? there).symm
    · rfl
  filled filled :=
    filled_of_put (find?_install r key e credential) (filled key e there) filled

theorem admits_join (there : r.find? key = some e) :
    r.Admits (r.reserve.1.join key e r.nextId) key where
  nextId := rfl
  holders k := by
    have joined := holders_of_put (r := r) (find?_join r.reserve.1 key e r.nextId) k
    rw [joined, ← holders_of_find? there]
    split
    · next same => rw [same]
    · rfl
  filled := filled_of_put (find?_join r.reserve.1 key e r.nextId) (by simp)

theorem admits_create (free : r.find? key = none) (credential : Credential) :
    r.Admits (r.reserve.1.create key r.nextId credential) key where
  nextId := rfl
  holders k := by
    have created := holders_of_put (r := r) (find?_create r.reserve.1 key r.nextId credential) k
    rw [created]
    split
    · next same => rw [same, holders_of_none free]; rfl
    · rfl
  filled := filled_of_put (find?_create r.reserve.1 key r.nextId credential) (by simp)

theorem releases_remove {h : Handle} (there : r.find? h.key = some e) (mem : h.id ∈ e.handles) :
    r.Releases (r.remove h e) h where
  mem := holders_of_find? there ▸ mem
  nextId := rfl
  copies := rfl
  entries k := by
    rw [find?_remove]
    split
    · rw [there, Option.bind_some]
    · rfl

variable {r' : Registry} {h : Handle}

theorem Releases.holders (released : r.Releases r' h) (k : RegistryKey) :
    r'.holders k = if k = h.key then (r.holders k).filter (· ≠ h.id) else r.holders k := by
  rw [Registry.holders, released.entries]
  split
  · next same =>
    subst same
    cases there : r.find? h.key with
    | none => rw [holders_of_none there]; rfl
    | some e =>
      rw [holders_of_find? there, Option.bind_some, without]
      split
      · next none => exact none.symm
      · rfl
  · rfl

theorem Releases.filled (released : r.Releases r' h) (filled : r.Filled) : r'.Filled := by
  unfold Filled
  simp only [released.entries]
  refine forall_entry ?_ fun k _ => filled k
  intro f left
  obtain ⟨e, -, left⟩ := Option.bind_eq_some_iff.1 left
  exact (without_eq_some_iff.1 left).2

end Registry

namespace LiveRegistry

theorem register_admits (l : LiveRegistry) (credential : Credential) (endpoint : String)
    (context : RefreshContext) (now : Nat) :
    let key := RegistryKey.of credential.certificate endpoint
    let registered := l.register credential endpoint context now
    registered.2 = ⟨l.registry.nextId, key⟩ ∧
      l.registry.Admits registered.1.registry key := by
  intro key registered
  have reserved :
      registered = l.reserve.1.enter l.registry.nextId credential endpoint context now := rfl
  cases there : l.registry.find? key with
  | some e =>
    have entry : l.reserve.1.registry.find? key = some e := there
    rw [reserved, enter_of_some entry]
    exact ⟨rfl, Registry.admits_join there⟩
  | none =>
    have free : l.reserve.1.registry.find? key = none := there
    rw [reserved, enter_of_none free]
    exact ⟨rfl, Registry.admits_create there credential⟩

theorem keepsHandles_step [Scheme] (l : LiveRegistry) (g : Nat) (event : RefreshTask.Event) :
    l.registry.KeepsHandles (l.step g event).registry := by
  cases running : l.tasks.get? g with
  | none =>
    rw [step, running]
    exact .refl _
  | some t =>
    rw [step_of_some running, putTask]
    obtain ⟨t', next, -⟩ | ⟨next, -⟩ | ⟨e, credential, there, -, next, -⟩ :=
      t.step_cases l.registry event
    · rw [next]
      exact .refl _
    · rw [next]
      exact .refl _
    · rw [next]
      exact Registry.keepsHandles_install there credential

end LiveRegistry

/-! ### Clients -/

namespace Client

def handle? (c : Client) : Option Handle :=
  match c.identity with
  | .registered h => some h
  | .enrolled _ => none

theorem handle?_of_registered {c : Client} {h : Handle} (identity : c.identity = .registered h) :
    c.handle? = some h := by
  rw [handle?, identity]

theorem handle?_of_enrolled {c : Client} {key : PrivateKey}
    (identity : c.identity = .enrolled key) : c.handle? = none := by
  rw [handle?, identity]

theorem handle?_congr {c c' : Client} (same : c'.identity = c.identity) :
    c'.handle? = c.handle? := by
  rw [handle?, handle?, same]

variable [Scheme]

theorem closed_step (c : Client) (usable : Int64 → List PublicKey) (l : LiveRegistry)
    {event : Event} (open_ : event ≠ .close) : (c.step usable l event).1.closed = c.closed := by
  cases event with
  | check records wall =>
    rw [step, checkRecords]
    split <;> rfl
  | deliver =>
    rw [step, deliver]
    split
    · split <;> rfl
    · rfl
  | wake number =>
    rw [step, wakeRecovery]
    split <;> rfl
  | health number now key serial wall reply =>
    rw [step, healthReplied]
    split <;> rfl
  | sign number now wall reply =>
    rw [step, signReplied]
    split <;> rfl
  | install number now =>
    rw [step, installRecovered]
    split <;> rfl
  | dismiss number =>
    rw [step, dismissRecovery]
    split
    · split <;> rfl
    · rfl
  | leave number => rfl
  | close => exact absurd rfl open_
  | drop => rfl

theorem keepsHandles_step (c : Client) (usable : Int64 → List PublicKey) (l : LiveRegistry)
    (event : Event) : l.registry.KeepsHandles (c.step usable l event).2.registry := by
  rw [step_registry]
  split
  · next handle credential _ =>
    split
    · next updated =>
      obtain ⟨e, there, -, rfl⟩ := LiveRegistry.update_eq_ok_iff.1 updated
      exact Registry.keepsHandles_install there credential
    · exact .refl _
  · exact .refl _

inductive Closes (c : Client) (l : LiveRegistry) : Client × LiveRegistry × Except Error Unit → Prop
  | again : c.closed = true → Closes c l (c, l, .ok ())
  | enrolled {c' : Client} : c.closed = false → c.handle? = none → c'.closed = true →
      c'.identity = c.identity → Closes c l (c', l, .ok ())
  | released {c' : Client} {h : Handle} {l' : LiveRegistry} : c.closed = false →
      c.handle? = some h → c'.closed = true → c'.identity = c.identity →
      l.registry.Releases l'.registry h → Closes c l (c', l', .ok ())

omit [Scheme] in
theorem closes {c : Client} {l : LiveRegistry}
    (registered : ∀ h, c.closed = false → c.handle? = some h → h.id ∈ l.registry.holders h.key) :
    c.Closes l (c.close l) := by
  cases closed : c.closed with
  | true =>
    rw [close, startClosing, if_pos closed]
    exact .again closed
  | false =>
    rw [close, startClosing, if_neg (by simp [closed])]
    cases identity : c.identity with
    | enrolled key =>
      exact .enrolled closed (handle?_of_enrolled identity) rfl rfl
    | registered h =>
      have handle := handle?_of_registered identity
      obtain ⟨e, there, mem⟩ := Registry.mem_holders_iff.1 (registered h closed handle)
      have unregistered : l.unregister h = .ok _ :=
        LiveRegistry.unregister_eq_ok_iff.2 ⟨e, there, mem, rfl⟩
      simp only [Closing.finish, unregistered]
      exact .released closed handle rfl rfl (Registry.releases_remove there mem)

end Client

/-- What is brought to a call that makes a client, and what it finds on its way. -/
structure Venture where
  config : Config
  identity : Identity
  keys : AuthorityKeys
  records : DisableMonitor.Records
  now : Moment
  fresh : PrivateKey
  serial : UInt64
  asked : Int64
  reply : Except Error Certificate
  usable : List PublicKey
  ended : Int64
  endpoint : String
  context : RefreshContext
  clock : Nat

namespace Venture

variable [Scheme]

def admitted (v : Venture) (f : Founding) : Except Error Identity :=
  match v.identity with
  | .certified held =>
    match Founding.upgrade? held v.fresh v.serial v.asked with
    | some renewal => (f.upgraded renewal v.usable v.ended v.reply).map .certified
    | none => .ok v.identity
  | .enrolled .. => .ok v.identity

def attempt (v : Venture) (l : LiveRegistry) : LiveRegistry × Except Error Client :=
  match Founding.start v.config v.keys v.records v.now with
  | .error e => (l, .error e)
  | .ok f =>
    match v.admitted f with
    | .error e => (l, .error e)
    | .ok identity =>
      let (client, l, _) := f.join identity l v.endpoint v.context v.clock
      (l, .ok client)

inductive Outcome (v : Venture) (l : LiveRegistry) : LiveRegistry × Except Error Client → Prop
  | failed (e : Error) : Outcome v l (l, .error e)
  | enrolled {f : Founding} {name : String} {key : PrivateKey} {client : Client} :
      Founding.start v.config v.keys v.records v.now = .ok f →
      v.admitted f = .ok (.enrolled name key) → client.closed = false →
      client.identity = .enrolled key → Outcome v l (l, .ok client)
  | registered {f : Founding} {credential : Credential} {client : Client} {l' : LiveRegistry} :
      Founding.start v.config v.keys v.records v.now = .ok f →
      v.admitted f = .ok (.certified credential) → client.closed = false →
      client.identity = .registered ⟨l.registry.nextId, .of credential.certificate v.endpoint⟩ →
      l.registry.Admits l'.registry (.of credential.certificate v.endpoint) →
      Outcome v l (l', .ok client)

theorem outcome (v : Venture) (l : LiveRegistry) : v.Outcome l (v.attempt l) := by
  unfold attempt
  split
  · next e _ => exact .failed e
  · next f started =>
    split
    · next e _ => exact .failed e
    · next identity admitted =>
      cases identity with
      | enrolled name key => exact .enrolled started admitted rfl rfl
      | certified credential =>
        obtain ⟨handle, admits⟩ := l.register_admits credential v.endpoint v.context v.clock
        exact .registered started admitted rfl (congrArg ActiveIdentity.registered handle) admits

end Venture

structure Commons where
  live : LiveRegistry
  clients : List Client

namespace Commons

inductive Event
  | make (v : Venture)
  | close (number : Nat)
  | task (generation : Nat) (event : RefreshTask.Event)
  | client (number : Nat) (usable : Int64 → List PublicKey)
      (event : {e : Client.Event // e ≠ .close})

def start (period : Nat) : Commons := ⟨.make period, []⟩

def held (s : Commons) : List Handle :=
  (s.clients.filter (!·.closed)).filterMap Client.handle?

def handles (s : Commons) : List Handle :=
  s.clients.filterMap Client.handle?

def heldUnder (s : Commons) (key : RegistryKey) : List Handle :=
  s.held.filter (·.key = key)

/-- The registry holds the handles of the clients that have not been closed, and no others. -/
structure Kept (s : Commons) : Prop where
  holders : ∀ key, s.live.registry.holders key = (s.heldUnder key).map Handle.id
  filled : s.live.registry.Filled
  fresh : ∀ h ∈ s.handles, h.id < s.live.registry.nextId
  distinct : (s.handles.map Handle.id).Nodup

theorem kept_start (period : Nat) : (start period).Kept where
  holders _ := rfl
  filled _ _ there := nomatch there
  fresh _ mem := absurd mem List.not_mem_nil
  distinct := .nil

section

variable {s t : Commons}

theorem Kept.distinct_held (h : s.Kept) : (s.held.map Handle.id).Nodup :=
  h.distinct.sublist ((List.filter_sublist.filterMap _).map _)

theorem Kept.goOn (h : s.Kept) (keeps : s.live.registry.KeepsHandles t.live.registry)
    (held : t.held = s.held) (handles : t.handles = s.handles) : t.Kept where
  holders key := by
    rw [keeps.holders, h.holders, heldUnder, heldUnder, held]
  filled := keeps.filled h.filled
  fresh := by
    rw [handles, keeps.nextId]
    exact h.fresh
  distinct := by
    rw [handles]
    exact h.distinct

theorem Kept.admit (h : s.Kept) {key : RegistryKey}
    (admits : s.live.registry.Admits t.live.registry key)
    (held : t.held = s.held ++ [⟨s.live.registry.nextId, key⟩])
    (handles : t.handles = s.handles ++ [⟨s.live.registry.nextId, key⟩]) : t.Kept where
  holders k := by
    rw [admits.holders, h.holders, heldUnder, heldUnder, held, List.filter_append]
    by_cases same : k = key
    · simp [same]
    · simp [same, Ne.symm same]
  filled := admits.filled h.filled
  fresh a mem := by
    rw [admits.nextId]
    rw [handles, List.mem_append, List.mem_singleton] at mem
    obtain old | rfl := mem
    · exact Nat.lt_succ_of_lt (h.fresh a old)
    · exact Nat.lt_succ_self _
  distinct := by
    have new : s.live.registry.nextId ∉ s.handles.map Handle.id := by
      intro mem
      obtain ⟨a, old, same⟩ := List.mem_map.1 mem
      exact Nat.lt_irrefl _ (same ▸ h.fresh a old)
    simpa [handles] using List.Nodup.concat new h.distinct

/-- No other client has the same handle, so none loses its own. -/
theorem Kept.release (h : s.Kept) {a : Handle}
    (released : s.live.registry.Releases t.live.registry a)
    {before after : List Handle} (held : s.held = before ++ a :: after)
    (left : t.held = before ++ after) (handles : t.handles = s.handles) : t.Kept where
  holders k := by
    have distinct := h.distinct_held
    rw [held, List.map_append, List.map_cons, List.nodup_middle, List.nodup_cons,
      ← List.map_append] at distinct
    have apart : ∀ b ∈ before ++ after, b.id ≠ a.id := fun b mem same =>
      distinct.1 (List.mem_map.2 ⟨b, mem, same⟩)
    rw [released.holders, h.holders, heldUnder, heldUnder, held, left, List.filter_append]
    by_cases same : k = a.key
    · rw [if_pos same, List.filter_map, ← List.filter_append, List.filter_filter]
      congr 1
      rw [List.filter_append, List.filter_cons_of_neg (by simp), ← List.filter_append]
      exact List.filter_congr fun b mem => by simp [apart b mem]
    · rw [if_neg same, List.filter_cons_of_neg (by simp [Ne.symm same]), ← List.filter_append]
  filled := released.filled h.filled
  fresh := by
    rw [handles, released.nextId]
    exact h.fresh
  distinct := by
    rw [handles]
    exact h.distinct

end

section

variable {s : Commons} {c c' : Client} {n : Nat}

theorem split_clients (there : s.clients[n]? = some c) (c' : Client) :
    ∃ before after, s.clients = before ++ c :: after ∧
      s.clients.set n c' = before ++ c' :: after := by
  obtain ⟨lt, rfl⟩ := List.getElem?_eq_some_iff.1 there
  obtain ⟨before, after, all, -, changed⟩ := List.exists_of_set lt
  exact ⟨before, after, all, changed⟩

theorem handles_set (there : s.clients[n]? = some c) (identity : c'.identity = c.identity)
    (live : LiveRegistry) : handles ⟨live, s.clients.set n c'⟩ = s.handles := by
  have same := Client.handle?_congr identity
  obtain ⟨before, after, all, changed⟩ := split_clients there c'
  simp only [handles, changed]
  simp [all, List.filterMap_cons, same]

theorem held_set (there : s.clients[n]? = some c) (identity : c'.identity = c.identity)
    (closed : c'.closed = c.closed) (live : LiveRegistry) :
    held ⟨live, s.clients.set n c'⟩ = s.held := by
  have same := Client.handle?_congr identity
  obtain ⟨before, after, all, changed⟩ := split_clients there c'
  simp only [held, changed]
  rw [all]
  cases open_ : c.closed <;> simp [List.filterMap_cons, closed, same, open_]

theorem held_set_closed (there : s.clients[n]? = some c) (open_ : c.closed = false)
    (closed : c'.closed = true) (live : LiveRegistry) :
    ∃ before after, s.held = before ++ c.handle?.toList ++ after ∧
      held ⟨live, s.clients.set n c'⟩ = before ++ after := by
  obtain ⟨before, after, all, changed⟩ := split_clients there c'
  refine ⟨(before.filter (!·.closed)).filterMap Client.handle?,
    (after.filter (!·.closed)).filterMap Client.handle?, ?_, ?_⟩
  · cases handle : c.handle? <;>
      simp [held, all, List.filter_append, List.filterMap_append, open_, handle]
  · simp only [held, changed]
    simp [closed]

end

variable [Scheme]

def step (s : Commons) : Event → Commons
  | .make v =>
    match v.attempt s.live with
    | (live, .ok client) => ⟨live, s.clients ++ [client]⟩
    | (live, .error _) => ⟨live, s.clients⟩
  | .close n =>
    match s.clients[n]? with
    | some c =>
      let (c, live, _) := c.close s.live
      ⟨live, s.clients.set n c⟩
    | none => s
  | .task g event => { s with live := s.live.step g event }
  | .client n usable event =>
    match s.clients[n]? with
    | some c =>
      let (c, live) := c.step usable s.live event
      ⟨live, s.clients.set n c⟩
    | none => s

def run (s : Commons) (events : List Event) : Commons :=
  events.foldl step s

def Endures (s t : Commons) : Prop :=
  ∀ (n : Nat) (c : Client), s.clients[n]? = some c → ∃ c', t.clients[n]? = some c' ∧
    c'.identity = c.identity ∧ (c.closed = true → c'.closed = true)

/-- What clients that share a registry may rely on. -/
structure Tallied (s : Commons) : Prop extends s.Kept where
  count : ∀ key, s.live.registry.handleCount key = (s.heldUnder key).length
  makes : ∀ v : Venture, v.Outcome s.live (v.attempt s.live)
  closes : ∀ c ∈ s.clients, c.Closes s.live (c.close s.live)
  endures : ∀ later : List Event, s.Endures (s.run later)
  emptied : (∀ c ∈ s.clients, c.closed = true) → s.live.registry.entries = ∅

section

variable {s : Commons}

omit [Scheme] in
theorem Kept.closes (h : s.Kept) {c : Client} (mem : c ∈ s.clients) :
    c.Closes s.live (c.close s.live) := by
  refine Client.closes fun a open_ handle => ?_
  have held : a ∈ s.held :=
    List.mem_filterMap.2 ⟨c, List.mem_filter.2 ⟨mem, by simp [open_]⟩, handle⟩
  rw [h.holders]
  exact List.mem_map_of_mem (List.mem_filter.2 ⟨held, by simp⟩)

theorem Kept.make (h : s.Kept) (v : Venture) : (s.step (.make v)).Kept := by
  have outcome := v.outcome s.live
  rw [Commons.step]
  generalize v.attempt s.live = came at outcome
  cases outcome with
  | failed e => exact h
  | @enrolled f name key client _ _ open_ identity =>
    have handle := Client.handle?_of_enrolled identity
    refine h.goOn (.refl _) ?_ ?_
    · simp [held, open_, handle]
    · simp [handles, handle]
  | @registered f credential client live _ _ open_ identity admits =>
    have handle := Client.handle?_of_registered identity
    refine h.admit admits ?_ ?_
    · simp [held, open_, handle]
    · simp [handles, handle]

theorem Kept.close (h : s.Kept) (n : Nat) : (s.step (.close n)).Kept := by
  cases there : s.clients[n]? with
  | none =>
    rw [Commons.step, there]
    exact h
  | some c =>
    have closes := h.closes (List.mem_of_getElem? there)
    simp only [Commons.step, there]
    generalize c.close s.live = came at closes
    cases closes with
    | again _ => exact h.goOn (.refl _) (held_set there rfl rfl _) (handles_set there rfl _)
    | enrolled open_ handle closed identity =>
      obtain ⟨before, after, held, left⟩ := held_set_closed there open_ closed s.live
      rw [handle] at held
      exact h.goOn (.refl _) (by rw [left, held]; simp) (handles_set there identity _)
    | @released c' a live open_ handle closed identity released =>
      obtain ⟨before, after, held, left⟩ := held_set_closed there open_ closed live
      rw [handle] at held
      exact h.release released (by simpa using held) left (handles_set there identity _)

theorem Kept.step (h : s.Kept) (event : Event) : (s.step event).Kept := by
  cases event with
  | make v => exact h.make v
  | close n => exact h.close n
  | task g event => exact h.goOn (s.live.keepsHandles_step g event) rfl rfl
  | client n usable event =>
    cases there : s.clients[n]? with
    | none =>
      rw [Commons.step, there]
      exact h
    | some c =>
      have identity := (c.step_continues usable s.live event).identity
      have closed := c.closed_step usable s.live event.2
      simp only [Commons.step, there]
      exact h.goOn (c.keepsHandles_step usable s.live event) (held_set there identity closed _)
        (handles_set there identity _)

theorem Kept.run (h : s.Kept) (events : List Event) : (s.run events).Kept := by
  induction events generalizing s with
  | nil => exact h
  | cons event rest ih => exact ih (h.step event)

omit [Scheme] in
theorem Endures.refl (s : Commons) : s.Endures s :=
  fun _ c there => ⟨c, there, rfl, id⟩

omit [Scheme] in
theorem Endures.trans {t u : Commons} (first : s.Endures t) (second : t.Endures u) :
    s.Endures u := by
  intro n c there
  obtain ⟨c', there', identity, closed⟩ := first n c there
  obtain ⟨c'', there'', identity', closed'⟩ := second n c' there'
  exact ⟨c'', there'', identity'.trans identity, closed' ∘ closed⟩

omit [Scheme] in
theorem endures_set {n : Nat} {c c' : Client} (there : s.clients[n]? = some c)
    (identity : c'.identity = c.identity) (closed : c.closed = true → c'.closed = true)
    (live : LiveRegistry) : s.Endures ⟨live, s.clients.set n c'⟩ := by
  intro m d there'
  obtain rfl | other := eq_or_ne n m
  · obtain rfl : c = d := Option.some.inj (there.symm.trans there')
    have lt := (List.getElem?_eq_some_iff.1 there).1
    exact ⟨c', List.getElem?_set_self lt, identity, closed⟩
  · exact ⟨d, (List.getElem?_set_ne other).trans there', rfl, id⟩

theorem Kept.endures_step (h : s.Kept) (event : Event) : s.Endures (s.step event) := by
  cases event with
  | make v =>
    have outcome := v.outcome s.live
    rw [Commons.step]
    generalize v.attempt s.live = came at outcome
    cases outcome with
    | failed e => exact .refl s
    | enrolled _ _ _ _ | registered _ _ _ _ _ =>
      intro n c there
      have lt := (List.getElem?_eq_some_iff.1 there).1
      exact ⟨c, (List.getElem?_append_left lt).trans there, rfl, id⟩
  | close n =>
    cases there : s.clients[n]? with
    | none =>
      rw [Commons.step, there]
      exact .refl s
    | some c =>
      have closes := h.closes (List.mem_of_getElem? there)
      simp only [Commons.step, there]
      generalize c.close s.live = came at closes
      cases closes with
      | again _ => exact endures_set there rfl id _
      | enrolled _ _ closed identity => exact endures_set there identity (fun _ => closed) _
      | released _ _ closed identity _ => exact endures_set there identity (fun _ => closed) _
  | task g event => exact .refl s
  | client n usable event =>
    cases there : s.clients[n]? with
    | none =>
      rw [Commons.step, there]
      exact .refl s
    | some c =>
      have identity := (c.step_continues usable s.live event).identity
      have closed := c.closed_step usable s.live event.2
      simp only [Commons.step, there]
      exact endures_set there identity closed.trans _

theorem Kept.endures (h : s.Kept) (later : List Event) : s.Endures (s.run later) := by
  induction later generalizing s with
  | nil => exact .refl s
  | cons event rest ih => exact (h.endures_step event).trans (ih (h.step event))

omit [Scheme] in
theorem Kept.emptied (h : s.Kept) (closed : ∀ c ∈ s.clients, c.closed = true) :
    s.live.registry.entries = ∅ := by
  have nobody : s.held = [] := by
    have none : s.clients.filter (!·.closed) = [] :=
      List.filter_eq_nil_iff.2 fun c mem => by simp [closed c mem]
    rw [held, none]
    rfl
  refine Table.eq_empty_of_get? fun key => ?_
  cases there : s.live.registry.find? key with
  | none => exact there
  | some e =>
    have holders := h.holders key
    rw [Registry.holders_of_find? there, heldUnder, nobody] at holders
    exact absurd holders (h.filled key e there)

theorem Kept.tallied (h : s.Kept) : s.Tallied where
  toKept := h
  count key := by rw [Registry.handleCount_eq, h.holders, List.length_map]
  makes v := v.outcome s.live
  closes _ mem := h.closes mem
  endures later := h.endures later
  emptied := h.emptied

end

theorem commons_run (period : Nat) (events : List Event) : ((start period).run events).Tallied :=
  ((kept_start period).run events).tallied

end Commons

end Warrant

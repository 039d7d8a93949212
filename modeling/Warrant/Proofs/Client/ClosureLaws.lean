import Warrant.Proofs.Client.CommonsLaws
import Warrant.Proofs.Client.FoundingLaws

/-!
Calls that close one client, made in any number and at any time. Each may be abandoned while it
waits for the registry. Only the first of them has a handle to release, and what the others return
says nothing of how far that one has come.
-/

namespace Warrant

namespace Registry

variable {r r' : Registry} {key : RegistryKey} {a h : Handle}

theorem Admits.mem_holders_iff (admits : r.Admits r' key) (old : h.id < r.nextId) :
    h.id ∈ r'.holders h.key ↔ h.id ∈ r.holders h.key := by
  rw [admits.holders]
  split
  · simp [Nat.ne_of_lt old]
  · rfl

theorem Admits.mem_holders (admits : r.Admits r' key) : r.nextId ∈ r'.holders key := by
  simp [admits.holders]

theorem Releases.mem_holders_iff (released : r.Releases r' a) (other : a.id ≠ h.id) :
    h.id ∈ r'.holders h.key ↔ h.id ∈ r.holders h.key := by
  rw [released.holders]
  split
  · simp [other.symm]
  · rfl

theorem Releases.notMem_holders (released : r.Releases r' h) : h.id ∉ r'.holders h.key := by
  simp [released.holders]

end Registry

namespace LiveRegistry

variable {l l' : LiveRegistry} {h : Handle}

theorem releases_unregister (ok : l.unregister h = .ok l') :
    l.registry.Releases l'.registry h := by
  obtain ⟨e, there, mem, rfl⟩ := unregister_eq_ok_iff.1 ok
  exact Registry.releases_remove there mem

theorem exists_unregister (mem : h.id ∈ l.registry.holders h.key) :
    ∃ l', l.unregister h = .ok l' := by
  obtain ⟨e, there, mem⟩ := Registry.mem_holders_iff.1 mem
  exact ⟨_, unregister_eq_ok_iff.2 ⟨e, there, mem, rfl⟩⟩

end LiveRegistry

inductive Closedown.Call
  | waiting (handle : Handle)
  | abandoned
  | returned (result : Except Error Unit)

structure Closedown where
  client : Client
  live : LiveRegistry
  calls : List Closedown.Call

namespace Closedown

inductive Event (h : Handle)
  | call
  | proceed (n : Nat)
  | abandon (n : Nat)
  | register (credential : Credential) (endpoint : String) (context : RefreshContext) (now : Nat)
  | unregister (other : {a : Handle // a.id ≠ h.id})
  | task (generation : Nat) (event : RefreshTask.Event)
  | client (usable : Int64 → List PublicKey) (event : {e : Client.Event // e ≠ .close})

def start (client : Client) (live : LiveRegistry) : Closedown := ⟨client, live, []⟩

def Registered (s : Closedown) (h : Handle) : Prop :=
  h.id ∈ s.live.registry.holders h.key

def settle (s : Closedown) (n : Nat) (call : Call) : Closedown :=
  { s with calls := s.calls.set n call }

section

variable [Scheme] {h : Handle}

def step (s : Closedown) : Event h → Closedown
  | .call =>
    match s.client.startClosing with
    | (client, .done) => ⟨client, s.live, s.calls ++ [.returned (.ok ())]⟩
    | (client, .releasing handle) => ⟨client, s.live, s.calls ++ [.waiting handle]⟩
  | .proceed n =>
    match s.calls[n]? with
    | some (.waiting handle) =>
      let (live, result) := (Client.Closing.releasing handle).finish s.live
      { s with live }.settle n (.returned result)
    | _ => s
  | .abandon n =>
    match s.calls[n]? with
    | some (.waiting _) => s.settle n .abandoned
    | _ => s
  | .register credential endpoint context now =>
    { s with live := (s.live.register credential endpoint context now).1 }
  | .unregister other =>
    match s.live.unregister other with
    | .ok live => { s with live }
    | .error _ => s
  | .task g event => { s with live := s.live.step g event }
  | .client usable event =>
    let (client, live) := s.client.step usable s.live event
    { s with client, live }

def run (s : Closedown) (events : List (Event h)) : Closedown :=
  events.foldl step s

end

/-- Where the calls and the registration stand. After the first call there are only such as find the
client closed. -/
inductive Phase (h : Handle) (s : Closedown) : Prop
  | untouched : s.client.closed = false → s.calls = [] → s.Registered h → Phase h s
  | waiting (n : Nat) : s.client.closed = true →
      s.calls = .waiting h :: .replicate n (.returned (.ok ())) → s.Registered h → Phase h s
  | abandoned (n : Nat) : s.client.closed = true →
      s.calls = .abandoned :: .replicate n (.returned (.ok ())) → s.Registered h → Phase h s
  | released (n : Nat) : s.client.closed = true →
      s.calls = .replicate (n + 1) (.returned (.ok ())) → ¬s.Registered h → Phase h s

structure Standing (h : Handle) (s : Closedown) : Prop where
  identity : s.client.identity = .registered h
  issued : h.id < s.live.registry.nextId
  phase : s.Phase h

structure Accounted [Scheme] (h : Handle) (s : Closedown) : Prop where
  succeeds : ∀ result, .returned result ∈ s.calls → result = .ok ()
  later : ∀ n call, s.calls[n + 1]? = some call → call = .returned (.ok ())
  registered_iff : s.Registered h ↔ s.calls[0]? ≠ some (.returned (.ok ()))
  proceeds : ∀ a, s.calls[0]? = some (.waiting a) → ¬(s.step (.proceed 0 : Event h)).Registered h
  leaks : s.calls[0]? = some .abandoned → ∀ later : List (Event h), (s.run later).Registered h
  remains : ¬s.Registered h → ∀ later : List (Event h), ¬(s.run later).Registered h
  /-- There is no leak where every call has returned. -/
  complete : s.calls ≠ [] → (∀ call ∈ s.calls, ∃ result, call = .returned result) →
    ¬s.Registered h

section

variable {h : Handle} {s t : Closedown}

theorem Phase.congr (phase : s.Phase h) (closed : t.client.closed = s.client.closed)
    (calls : t.calls = s.calls) (registered : t.Registered h ↔ s.Registered h) : t.Phase h := by
  cases phase with
  | untouched open_ none held =>
    exact .untouched (closed.trans open_) (calls.trans none) (registered.2 held)
  | waiting n shut all held =>
    exact .waiting n (closed.trans shut) (calls.trans all) (registered.2 held)
  | abandoned n shut all held =>
    exact .abandoned n (closed.trans shut) (calls.trans all) (registered.2 held)
  | released n shut all gone =>
    exact .released n (closed.trans shut) (calls.trans all) (gone ∘ registered.1)

theorem Standing.goOn (st : s.Standing h) (identity : t.client.identity = s.client.identity)
    (closed : t.client.closed = s.client.closed) (calls : t.calls = s.calls)
    (issued : s.live.registry.nextId ≤ t.live.registry.nextId)
    (registered : t.Registered h ↔ s.Registered h) : t.Standing h where
  identity := identity.trans st.identity
  issued := Nat.lt_of_lt_of_le st.issued issued
  phase := st.phase.congr closed calls registered

theorem Phase.again (phase : s.Phase h) (closed : s.client.closed = true) :
    Phase h { s with calls := s.calls ++ [.returned (.ok ())] } := by
  cases phase with
  | untouched open_ _ _ => simp [closed] at open_
  | waiting n _ all held =>
    exact .waiting (n + 1) closed (by simp [all, List.replicate_succ']) held
  | abandoned n _ all held =>
    exact .abandoned (n + 1) closed (by simp [all, List.replicate_succ']) held
  | released n _ all gone =>
    exact .released (n + 1) closed (by simp [all, List.replicate_succ']) gone

theorem registered_keepsHandles (keeps : s.live.registry.KeepsHandles t.live.registry) :
    t.Registered h ↔ s.Registered h := by
  rw [Registered, Registered, keeps.holders]

theorem Standing.waiting_first (st : s.Standing h) {n : Nat} {a : Handle}
    (there : s.calls[n]? = some (.waiting a)) : n = 0 ∧ a = h ∧ s.client.closed = true ∧
      s.Registered h ∧ ∃ k, s.calls = .waiting h :: .replicate k (.returned (.ok ())) := by
  cases st.phase with
  | untouched _ none _ => simp [none] at there
  | waiting k shut all held =>
    cases n with
    | zero =>
      simp only [all, List.getElem?_cons_zero, Option.some.injEq, Call.waiting.injEq] at there
      exact ⟨rfl, there.symm, shut, held, k, all⟩
    | succ n => simp [all, List.getElem?_replicate] at there
  | abandoned k _ all _ => cases n <;> simp [all, List.getElem?_replicate] at there
  | released k _ all _ => simp [all, List.getElem?_replicate] at there

variable [Scheme]

theorem Standing.call (st : s.Standing h) : (s.step (.call : Event h)).Standing h := by
  -- The client counts as closed before its handle is released. Whoever comes later goes away again.
  cases closed : s.client.closed with
  | true =>
    have again : s.step (.call : Event h) =
        { s with calls := s.calls ++ [.returned (.ok ())] } := by
      rw [Closedown.step, Client.startClosing, if_pos closed]
    rw [again]
    exact ⟨st.identity, st.issued, st.phase.again closed⟩
  | false =>
    have first : s.step (.call : Event h) =
        ⟨{ s.client.stop with closed := true }, s.live, s.calls ++ [.waiting h]⟩ := by
      rw [Closedown.step, Client.startClosing, if_neg (by simp [closed]), st.identity]
    rw [first]
    refine ⟨st.identity, st.issued, ?_⟩
    cases st.phase with
    | untouched _ none held => exact .waiting 0 rfl (by simp [none]) held
    | waiting _ shut _ _ | abandoned _ shut _ _ | released _ shut _ _ => simp [closed] at shut

theorem Standing.proceed_eq (st : s.Standing h) {n : Nat} {a : Handle}
    (there : s.calls[n]? = some (.waiting a)) :
    ∃ live, s.live.registry.Releases live.registry h ∧
      s.step (.proceed n : Event h) = { s with live }.settle 0 (.returned (.ok ())) := by
  obtain ⟨rfl, rfl, -, held, -⟩ := st.waiting_first there
  obtain ⟨live, ok⟩ := LiveRegistry.exists_unregister held
  refine ⟨live, LiveRegistry.releases_unregister ok, ?_⟩
  simp only [Closedown.step, there, Client.Closing.finish, ok]

theorem Standing.proceed (st : s.Standing h) (n : Nat) :
    (s.step (.proceed n : Event h)).Standing h := by
  by_cases turn : ∃ a, s.calls[n]? = some (.waiting a)
  · obtain ⟨a, there⟩ := turn
    obtain ⟨-, -, shut, -, k, all⟩ := st.waiting_first there
    obtain ⟨live, released, next⟩ := st.proceed_eq there
    rw [next]
    refine ⟨st.identity, ?_, .released k shut ?_ released.notMem_holders⟩
    · exact released.nextId ▸ st.issued
    · simp [settle, all, List.replicate_succ]
  · have same : s.step (.proceed n : Event h) = s := by
      rw [Closedown.step]
      split
      · next a there => exact absurd ⟨a, there⟩ turn
      · rfl
    rw [same]
    exact st

theorem Standing.abandon (st : s.Standing h) (n : Nat) :
    (s.step (.abandon n : Event h)).Standing h := by
  rw [Closedown.step]
  split
  · next a there =>
    obtain ⟨rfl, -, shut, held, k, all⟩ := st.waiting_first there
    exact ⟨st.identity, st.issued, .abandoned k shut (by simp [settle, all]) held⟩
  · exact st

theorem Standing.step (st : s.Standing h) (event : Event h) : (s.step event).Standing h := by
  cases event with
  | call => exact st.call
  | proceed n => exact st.proceed n
  | abandon n => exact st.abandon n
  | register credential endpoint context now =>
    have admits := (s.live.register_admits credential endpoint context now).2
    exact st.goOn rfl rfl rfl (admits.nextId ▸ Nat.le_succ _) (admits.mem_holders_iff st.issued)
  | unregister other =>
    rw [Closedown.step]
    split
    · next live ok =>
      have released := LiveRegistry.releases_unregister ok
      exact st.goOn rfl rfl rfl (Nat.le_of_eq released.nextId.symm)
        (released.mem_holders_iff other.2)
    · exact st
  | task g event =>
    have keeps := s.live.keepsHandles_step g event
    exact st.goOn rfl rfl rfl (Nat.le_of_eq keeps.nextId.symm) (registered_keepsHandles keeps)
  | client usable event =>
    have keeps := s.client.keepsHandles_step usable s.live event
    exact st.goOn (s.client.step_continues usable s.live event).identity
      (s.client.closed_step usable s.live event.2) rfl (Nat.le_of_eq keeps.nextId.symm)
      (registered_keepsHandles keeps)

theorem Standing.run (st : s.Standing h) (events : List (Event h)) : (s.run events).Standing h := by
  induction events generalizing s with
  | nil => exact st
  | cons event rest ih => exact ih (st.step event)

theorem getElem?_step {n : Nat} {call : Call} (there : s.calls[n]? = some call)
    (settled : ∀ a, call ≠ .waiting a) (event : Event h) :
    (s.step event).calls[n]? = some call := by
  have lt := (List.getElem?_eq_some_iff.1 there).1
  -- What is replaced in the list is a call that waits, so it is another one.
  have other {m : Nat} {a : Handle} (waits : s.calls[m]? = some (.waiting a)) : m ≠ n := by
    rintro rfl
    exact settled a (Option.some.inj (there.symm.trans waits))
  cases event with
  | call =>
    rw [Closedown.step]
    split <;> exact (List.getElem?_append_left lt).trans there
  | proceed m | abandon m =>
    rw [Closedown.step]
    split
    · next a waits => exact (List.getElem?_set_ne (other waits)).trans there
    · exact there
  | unregister a =>
    rw [Closedown.step]
    split <;> exact there
  | register _ _ _ _ | task _ _ | client _ _ => exact there

theorem getElem?_run {n : Nat} {call : Call} (there : s.calls[n]? = some call)
    (settled : ∀ a, call ≠ .waiting a) (events : List (Event h)) :
    (s.run events).calls[n]? = some call := by
  induction events generalizing s with
  | nil => exact there
  | cons event rest ih => exact ih (getElem?_step there settled event)

omit [Scheme] in
theorem Standing.registered_iff (st : s.Standing h) :
    s.Registered h ↔ s.calls[0]? ≠ some (.returned (.ok ())) := by
  cases st.phase with
  | untouched _ none held => simp [none, held]
  | waiting _ _ all held | abandoned _ _ all held => simp [all, held]
  | released _ _ all gone => simp [all, gone]

omit [Scheme] in
theorem Standing.first (st : s.Standing h) {result : Except Error Unit}
    (there : s.calls[0]? = some (.returned result)) : result = .ok () := by
  cases st.phase with
  | untouched _ none _ => simp [none] at there
  | waiting _ _ all _ | abandoned _ _ all _ => simp [all] at there
  | released _ _ all _ =>
    rw [all] at there
    exact Call.returned.inj (List.eq_of_mem_replicate (List.mem_of_getElem? there))

omit [Scheme] in
theorem Standing.later (st : s.Standing h) {n : Nat} {call : Call}
    (there : s.calls[n + 1]? = some call) : call = .returned (.ok ()) := by
  cases st.phase with
  | untouched _ none _ => simp [none] at there
  | waiting k _ all _ | abandoned k _ all _ =>
    rw [all, List.getElem?_cons_succ] at there
    exact List.eq_of_mem_replicate (List.mem_of_getElem? there)
  | released k _ all _ =>
    rw [all] at there
    exact List.eq_of_mem_replicate (List.mem_of_getElem? there)

theorem Standing.accounted (st : s.Standing h) : s.Accounted h where
  succeeds result mem := by
    obtain ⟨n, there⟩ := List.getElem?_of_mem mem
    cases n with
    | zero => exact st.first there
    | succ n => exact Call.returned.inj (st.later there)
  later _ _ there := st.later there
  registered_iff := st.registered_iff
  proceeds a there := by
    obtain ⟨live, released, next⟩ := st.proceed_eq there
    rw [next]
    exact released.notMem_holders
  leaks gone later := by
    have still := getElem?_run gone nofun later
    exact (st.run later).registered_iff.2 (by simp [still])
  remains gone later := by
    have returned : s.calls[0]? = some (.returned (.ok ())) :=
      not_not.1 (gone ∘ st.registered_iff.2)
    have still := getElem?_run returned nofun later
    exact fun held => (st.run later).registered_iff.1 held still
  complete made all held := by
    obtain ⟨first, rest, cons⟩ := List.exists_cons_of_ne_nil made
    have there : s.calls[0]? = some first := by rw [cons, List.getElem?_cons_zero]
    obtain ⟨result, rfl⟩ := all first (List.mem_of_getElem? there)
    exact st.registered_iff.1 held (st.first there ▸ there)

end

theorem closure_run [Scheme] (f : Founding) (credential : Credential) (l : LiveRegistry)
    (endpoint : String) (context : RefreshContext) (now : Nat) :
    let h : Handle := ⟨l.registry.nextId, .of credential.certificate endpoint⟩
    let made := f.join (.certified credential) l endpoint context now
    made.1.handle? = some h ∧
      ∀ events : List (Event h), ((start made.1 made.2.1).run events).Accounted h := by
  intro h made
  obtain ⟨handle, admits⟩ := l.register_admits credential endpoint context now
  have identity : made.1.identity = .registered h := congrArg ActiveIdentity.registered handle
  have issued : h.id < made.2.1.registry.nextId := admits.nextId ▸ Nat.lt_succ_self _
  have standing : (start made.1 made.2.1).Standing h :=
    ⟨identity, issued, .untouched rfl rfl admits.mem_holders⟩
  exact ⟨Client.handle?_of_registered identity, fun events => (standing.run events).accounted⟩

def bob : Closedown :=
  let made :=
    Founding.paused.join (.certified .bootstrap) (.make 60) "fake://authority" ⟨false, 0⟩ 0
  start made.1 made.2.1

theorem returned_registered :
    let h : Handle := ⟨1, .of .bootstrap "fake://authority"⟩
    let overtaken := bob.run [.call, (.call : Event h)]
    let abandoned := bob.run [.call, .abandon 0, (.call : Event h)]
    bob.client.handle? = some h ∧
      overtaken.calls = [.waiting h, .returned (.ok ())] ∧ overtaken.Registered h ∧
      abandoned.calls = [.abandoned, .returned (.ok ())] ∧ abandoned.Registered h := by
  intro h overtaken abandoned
  have registered : bob.Registered h := List.mem_singleton_self 1
  exact ⟨rfl, rfl, registered, rfl, registered⟩

end Closedown

end Warrant

import Warrant.Proofs.Client.WatchLaws
import Warrant.Proofs.Registry.OriginLaws
import Warrant.Proofs.Registry.SoundLaws

/-!
The upkeep of certificates: a registry with its tasks and clients with their recoveries, all at work
in any order, while keys come and go.
-/

namespace Warrant

structure Resident where
  client : Client
  keys : Nat

structure Upkeep where
  chronicle : Chronicle
  keySets : Table Nat AuthorityKeys
  residents : Table Nat Resident

namespace RefreshTask.Event

/-- The same news, for a task that goes by the keys that are in use now. -/
def withKeys (usable : Int64 → List PublicKey) : Event → Event
  | .authority _ wall reply => .authority (usable wall) wall reply
  | .daemon _ wall reply => .daemon (usable wall) wall reply
  | event => event

variable {usable : Int64 → List PublicKey} {event : Event} {keys : List PublicKey} {wall : Int64}

theorem withKeys_eq_authority {reply : Except Error Certificate}
    (same : event.withKeys usable = .authority keys wall reply) :
    ∃ unused, event = .authority unused wall reply ∧ keys = usable wall := by
  cases event with
  | authority unused =>
    cases same
    exact ⟨unused, rfl, rfl⟩
  | _ => cases same

theorem withKeys_eq_daemon {reply : Except Error Credential}
    (same : event.withKeys usable = .daemon keys wall reply) :
    ∃ unused, event = .daemon unused wall reply ∧ keys = usable wall := by
  cases event with
  | daemon unused =>
    cases same
    exact ⟨unused, rfl, rfl⟩
  | _ => cases same

end RefreshTask.Event

namespace Upkeep

inductive Event
  | keys (number : Nat) (keys : AuthorityKeys)
  | registry (event : RegistryEvent)
  | arrive (f : Founding) (identity : ActiveIdentity) (keys now : Nat)
  | client (number : Nat) (event : Client.Event)

def start (period : Nat) : Upkeep := ⟨.start period, ∅, ∅⟩

def usable (u : Upkeep) (keys : Nat) (wall : Int64) : List PublicKey :=
  ((u.keySets.get? keys).getD .empty).usable (.ofSecond wall)

def live (u : Upkeep) : LiveRegistry :=
  u.chronicle.live

def task? (u : Upkeep) (generation : Nat) : Option RefreshTask :=
  u.live.tasks.get? generation

def find? (u : Upkeep) (key : RegistryKey) : Option Entry :=
  u.chronicle.find? key

/-- A task goes by its own key set. -/
def told (u : Upkeep) : RegistryEvent → RegistryEvent
  | .task g event =>
    match u.task? g with
    | some t => .task g (event.withKeys (u.usable t.context.keys))
    | none => .task g event
  | event => event

variable [Scheme]

def step (u : Upkeep) : Event → Upkeep
  | .keys number keys => { u with keySets := u.keySets.put number keys }
  | .registry event => { u with chronicle := u.chronicle.step (u.told event) }
  | .arrive f identity keys now =>
    { u with residents := u.residents.put u.residents.size ⟨(f.finish identity now).1, keys⟩ }
  | .client number event =>
    match u.residents.get? number with
    | some s =>
      { u with
        chronicle :=
          match s.client.offer? event with
          | some (handle, credential) => u.chronicle.step (.update handle credential)
          | none => u.chronicle
        residents := u.residents.put number
          { s with client := (s.client.step (u.usable s.keys) u.live event).1 } }
    | none => u

def run (u : Upkeep) (events : List Event) : Upkeep :=
  events.foldl step u

theorem run_nil (u : Upkeep) : u.run [] = u := rfl

theorem run_cons (u : Upkeep) (e : Event) (rest : List Event) :
    u.run (e :: rest) = (u.step e).run rest := rfl

theorem run_append (u : Upkeep) (before after : List Event) :
    u.run (before ++ after) = (u.run before).run after :=
  List.foldl_append

theorem run_concat (u : Upkeep) (events : List Event) (e : Event) :
    u.run (events ++ [e]) = (u.run events).step e :=
  run_append u events [e]

variable {u : Upkeep}

theorem run_preserves {p : Upkeep → Prop} {events : List Event}
    (step : ∀ u e, e ∈ events → p u → p (u.step e)) (h : p u) : p (u.run events) := by
  induction events generalizing u with
  | nil => exact h
  | cons e rest ih =>
    exact ih (fun u f mem => step u f (List.mem_cons_of_mem e mem)) (step u e List.mem_cons_self h)

theorem step_task {g : Nat} {t : RefreshTask} (running : u.task? g = some t)
    (event : RefreshTask.Event) :
    u.step (.registry (.task g event)) =
      { u with
        chronicle := u.chronicle.step (.task g (event.withKeys (u.usable t.context.keys))) } := by
  simp only [step, told, running]

theorem step_client {number : Nat} {s : Resident} (there : u.residents.get? number = some s)
    (event : Client.Event) :
    u.step (.client number event) =
      { u with
        chronicle :=
          match s.client.offer? event with
          | some (handle, credential) => u.chronicle.step (.update handle credential)
          | none => u.chronicle
        residents := u.residents.put number
          { s with client := (s.client.step (u.usable s.keys) u.live event).1 } } := by
  rw [step, there]

theorem live_task {g : Nat} {t : RefreshTask} (running : u.task? g = some t)
    (event : RefreshTask.Event) :
    (u.step (.registry (.task g event))).live =
      u.live.putTask g
        (t.step u.live.registry (event.withKeys (u.usable t.context.keys))) := by
  have there : u.chronicle.live.tasks.get? g = some t := running
  rw [step_task running, live, Chronicle.step, there]
  exact LiveRegistry.step_of_some there _

/-- A task changes the registry when it installs something, and only then. -/
theorem registry_task (u : Upkeep) (g : Nat) (event : RefreshTask.Event) :
    (u.step (.registry (.task g event))).live.registry = u.live.registry ∨
      ∃ t c e, event = .install ∧ u.task? g = some t ∧ t.phase = .installing c ∧
        u.find? t.key = some e ∧ e.generation = t.generation ∧
        (u.step (.registry (.task g event))).live.registry =
          u.live.registry.install t.key e c := by
  cases running : u.task? g with
  | none =>
    left
    have absent : u.chronicle.live.tasks.get? g = none := running
    simp only [step, told, running, live, Chronicle.step, absent]
  | some t =>
    simp only [live_task running]
    obtain ⟨t', next, -⟩ | ⟨next, -⟩ | ⟨e, c, there, same, next, installed⟩ :=
      t.step_cases u.live.registry (event.withKeys (u.usable t.context.keys))
    · exact .inl (by rw [next]; rfl)
    · exact .inl (by rw [next]; rfl)
    · obtain ⟨install, phase⟩ := RefreshTask.installed?_eq_some installed
      refine .inr ⟨t, c, e, ?_, rfl, phase, there, same, by rw [next]; rfl⟩
      cases event with
      | install => rfl
      | _ => cases install

theorem live_client {number : Nat} {s : Resident} (there : u.residents.get? number = some s)
    (event : Client.Event) :
    (u.step (.client number event)).live = (s.client.step (u.usable s.keys) u.live event).2 := by
  rw [step_client there, Client.step_registry]
  cases s.client.offer? event with
  | none => rfl
  | some offer =>
    obtain ⟨handle, credential⟩ := offer
    simp only [live, Chronicle.step]
    cases updated : u.chronicle.live.update handle credential with
    | error e => rfl
    | ok l =>
      obtain ⟨e, found, -⟩ := LiveRegistry.update_eq_ok_iff.1 updated
      have entry : u.chronicle.find? handle.key = some e := found
      simp only [entry]

theorem resident_client {number : Nat} {s : Resident} (there : u.residents.get? number = some s)
    (event : Client.Event) :
    (u.step (.client number event)).residents.get? number =
      some { s with client := (s.client.step (u.usable s.keys) u.live event).1 } := by
  rw [step_client there]
  exact Table.get?_put_self ..

theorem pending_cases {e : Event} {id : Nat} {r : Registration}
    (found : (u.step e).chronicle.pending.get? id = some r) :
    u.chronicle.pending.get? id = some r ∨ e = .registry (.reserve r) := by
  cases e with
  | keys number keys => exact .inl found
  | arrive f identity keys now => exact .inl found
  | client number event =>
    cases there : u.residents.get? number with
    | none =>
      rw [step, there] at found
      exact .inl found
    | some s =>
      rw [step_client there] at found
      cases offered : s.client.offer? event with
      | none =>
        rw [offered] at found
        exact .inl found
      | some offer =>
        rw [offered] at found
        exact .inl ((Chronicle.pending_step found).resolve_right nofun)
  | registry event =>
    refine (Chronicle.pending_step found).imp_right fun reserved => ?_
    cases event with
    | reserve other =>
      cases reserved
      rfl
    | task g event =>
      rw [told] at reserved
      split at reserved <;> cases reserved
    | _ => cases reserved

theorem task_cases {e : Event} {g : Nat} {t' : RefreshTask} (found : (u.step e).task? g = some t') :
    u.task? g = some t' ∨
    (∃ id now r, e = .registry (.enter id now) ∧ u.chronicle.pending.get? id = some r ∧
      g = id ∧ t' = .make r.key g r.context u.live.period now) ∨
    ∃ t event, e = .registry (.task g event) ∧ u.task? g = some t ∧
      t.Advances u.live.registry (event.withKeys (u.usable t.context.keys)) t' := by
  cases e with
  | keys number keys => exact .inl found
  | arrive f identity keys now => exact .inl found
  | client number event =>
    cases there : u.residents.get? number with
    | none =>
      rw [step, there] at found
      exact .inl found
    | some s =>
      rw [step_client there] at found
      cases offered : s.client.offer? event with
      | none =>
        rw [offered] at found
        exact .inl found
      | some offer =>
        rw [offered, task?, live, Chronicle.task_update] at found
        exact .inl found
  | registry event =>
    have origin : u.chronicle.Task (u.told event) g t' := Chronicle.task_step found
    cases event with
    | task g₀ event =>
      cases running : u.task? g₀ with
      | none =>
        rw [told, running] at origin
        cases origin with
        | kept found => exact .inl found
        | advanced there => exact nomatch running.symm.trans there
      | some t =>
        rw [told, running] at origin
        cases origin with
        | kept found => exact .inl found
        | advanced there advances =>
          cases running.symm.trans there
          exact .inr (.inr ⟨t, event, rfl, running, advances⟩)
    | enter id now =>
      cases origin with
      | kept found => exact .inl found
      | made waiting => exact .inr (.inl ⟨_, now, _, rfl, waiting, rfl, rfl⟩)
    | _ =>
      cases origin with
      | kept found => exact .inl found

theorem resident_cases {e : Event} {n : Nat} {s' : Resident}
    (found : (u.step e).residents.get? n = some s') :
    u.residents.get? n = some s' ∨
    (∃ f identity keys now, e = .arrive f identity keys now ∧
      s' = ⟨(f.finish identity now).1, keys⟩) ∨
    ∃ s event, e = .client n event ∧ u.residents.get? n = some s ∧
      s' = { s with client := (s.client.step (u.usable s.keys) u.live event).1 } := by
  cases e with
  | keys number keys => exact .inl found
  | registry event => exact .inl found
  | arrive f identity keys now =>
    rw [step, Table.get?_put] at found
    split at found
    · cases found
      exact .inr (.inl ⟨f, identity, keys, now, rfl, rfl⟩)
    · exact .inl found
  | client number event =>
    cases there : u.residents.get? number with
    | none =>
      rw [step, there] at found
      exact .inl found
    | some s =>
      rw [step_client there, Table.get?_put] at found
      split at found
      · next same =>
        cases found
        subst same
        exact .inr (.inr ⟨s, event, rfl, there, rfl⟩)
      · exact .inl found

inductive Current (u : Upkeep) : Event → RegistryKey → Entry → Prop
  | kept {e : Event} {key : RegistryKey} {old new : Entry} : u.find? key = some old →
      new.generation = old.generation → new.current = old.current → Current u e key new
  | opened {id now : Nat} {r : Registration} : u.chronicle.pending.get? id = some r →
      Current u (.registry (.enter id now)) r.key ⟨id, r.credential, [id]⟩
  | updated {h : Handle} {credential : Credential} {old : Entry} : u.find? h.key = some old →
      Current u (.registry (.update h credential)) h.key { old with current := credential }
  | refreshed {g : Nat} {t : RefreshTask} {credential : Credential} {old : Entry} :
      u.task? g = some t → t.phase = .installing credential → u.find? t.key = some old →
      old.generation = t.generation →
      Current u (.registry (.task g .install)) t.key { old with current := credential }
  | recovered {n : Nat} {s : Resident} {event : Client.Event} {h : Handle}
      {credential : Credential} {old : Entry} : u.residents.get? n = some s →
      s.client.offer? event = some (h, credential) → u.find? h.key = some old →
      Current u (.client n event) h.key { old with current := credential }

theorem current_step {e : Event} {key : RegistryKey} {new : Entry}
    (found : (u.step e).find? key = some new) : u.Current e key new := by
  cases e with
  | keys number keys => exact .kept found rfl rfl
  | arrive f identity keys now => exact .kept found rfl rfl
  | client number event =>
    cases there : u.residents.get? number with
    | none =>
      rw [step, there] at found
      exact .kept found rfl rfl
    | some s =>
      rw [step_client there] at found
      cases offered : s.client.offer? event with
      | none =>
        rw [offered] at found
        exact .kept found rfl rfl
      | some offer =>
        rw [offered] at found
        cases Chronicle.current_step found with
        | kept old generation current => exact .kept old generation current
        | updated old => exact .recovered there offered old
  | registry event =>
    have origin : u.chronicle.Current (u.told event) key new := Chronicle.current_step found
    cases event with
    | task g event =>
      cases running : u.task? g with
      | none =>
        rw [told, running] at origin
        cases origin with
        | kept old generation current => exact .kept old generation current
        | refreshed there => exact nomatch running.symm.trans there
      | some t =>
        rw [told, running] at origin
        cases event with
        | install =>
          cases origin with
          | kept old generation current => exact .kept old generation current
          | refreshed there phase old same => exact .refreshed there phase old same
        | _ =>
          cases origin with
          | kept old generation current => exact .kept old generation current
    | enter id now =>
      cases origin with
      | kept old generation current => exact .kept old generation current
      | opened waiting => exact .opened waiting
    | update h credential =>
      cases origin with
      | kept old generation current => exact .kept old generation current
      | updated old => exact .updated old
    | _ =>
      cases origin with
      | kept old generation current => exact .kept old generation current

structure Proper (u : Upkeep) : Prop where
  sound : u.chronicle.Sound
  tasks : ∀ g t, u.task? g = some t → t.Proper
  residents : ∀ n s, u.residents.get? n = some s → s.client.Renews

theorem proper_start (period : Nat) : (start period).Proper :=
  ⟨Chronicle.sound_start period, by simp [task?, live, start, Chronicle.start, LiveRegistry.make],
    by simp [start]⟩

theorem step_moves (u : Upkeep) (e : Event) :
    Relation.ReflTransGen Chronicle.Move u.chronicle (u.step e).chronicle := by
  cases e with
  | keys number keys => exact .refl
  | arrive f identity keys now => exact .refl
  | registry event => exact u.chronicle.step_moves (u.told event)
  | client number event =>
    cases there : u.residents.get? number with
    | none =>
      rw [step, there]
    | some s =>
      rw [step_client there]
      split
      · next h credential _ => exact u.chronicle.step_moves (.update h credential)
      · exact .refl

theorem Proper.step (h : u.Proper) (e : Event) : (u.step e).Proper := by
  refine ⟨h.sound.moves (u.step_moves e), ?_, ?_⟩
  · intro g t found
    obtain found | ⟨_, _, _, -, -, -, rfl⟩ | ⟨t₀, _, -, running, advances⟩ := task_cases found
    · exact h.tasks g t found
    · exact RefreshTask.proper_make ..
    · exact (h.tasks g t₀ running).advances advances
  · intro n s found
    obtain found | ⟨_, _, _, _, -, rfl⟩ | ⟨s₀, event, -, there, rfl⟩ := resident_cases found
    · exact h.residents n s found
    · intro number renewal task
      cases task
    · exact (h.residents n s₀ there).step _ _ event

theorem Proper.run (h : u.Proper) (events : List Event) : (u.run events).Proper :=
  run_preserves (fun _ e _ proper => proper.step e) h

end Upkeep

end Warrant

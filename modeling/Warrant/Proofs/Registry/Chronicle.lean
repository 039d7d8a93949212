import Warrant.Proofs.Registry.RefreshLaws
import Mathlib.Logic.Relation

/-!
A registry in use: registrations, handles that are given back, updates and the steps of the tasks in
any order, with a record of what has happened.
-/

namespace Warrant

structure Registration where
  credential : Credential
  endpoint : String
  context : RefreshContext

def Registration.key (r : Registration) : RegistryKey :=
  .of r.credential.certificate r.endpoint

inductive Happening
  /-- The handle came first and brought the entry's credential. -/
  | opened (h : Handle) (credential : Credential)
  | joined (h : Handle)
  | left (h : Handle)
  | installed (generation : Nat) (credential : Credential)
  deriving DecidableEq

inductive RegistryEvent
  | reserve (registration : Registration)
  | enter (id now : Nat)
  | unregister (h : Handle)
  | update (h : Handle) (credential : Credential)
  | task (generation : Nat) (event : RefreshTask.Event)

namespace Happening

def issued? : Happening → Option Handle
  | .opened h _ => some h
  | .joined h => some h
  | _ => none

def issued (past : List Happening) : List Handle :=
  past.filterMap issued?

def opener? : Happening → Option Handle
  | .opened h _ => some h
  | _ => none

def openers (past : List Happening) : List Handle :=
  past.filterMap opener?

/-- The handle has been registered, and not been given back. -/
def Held (past : List Happening) (h : Handle) : Prop :=
  h ∈ issued past ∧ .left h ∉ past

/-- What the entry of a generation was given last, by an install or by the handle that opened it. -/
def given? (generation : Nat) : List Happening → Option Credential
  | [] => none
  | .installed g credential :: rest =>
    if g = generation then some credential else given? generation rest
  | .opened h credential :: rest =>
    if h.id = generation then some credential else given? generation rest
  | .joined _ :: rest => given? generation rest
  | .left _ :: rest => given? generation rest

section

variable (h : Handle) (generation : Nat) (credential : Credential) (past : List Happening)

@[simp] theorem issued_opened : issued (.opened h credential :: past) = h :: issued past := rfl

@[simp] theorem issued_joined : issued (.joined h :: past) = h :: issued past := rfl

@[simp] theorem issued_left : issued (.left h :: past) = issued past := rfl

@[simp] theorem issued_installed :
    issued (.installed generation credential :: past) = issued past := rfl

@[simp] theorem openers_opened : openers (.opened h credential :: past) = h :: openers past := rfl

@[simp] theorem openers_joined : openers (.joined h :: past) = openers past := rfl

@[simp] theorem openers_left : openers (.left h :: past) = openers past := rfl

@[simp] theorem openers_installed :
    openers (.installed generation credential :: past) = openers past := rfl

end

theorem issued_of_opener {past : List Happening} {h : Handle} (mem : h ∈ openers past) :
    h ∈ issued past := by
  obtain ⟨happening, mem, first⟩ := List.mem_filterMap.1 mem
  refine List.mem_filterMap.2 ⟨happening, mem, ?_⟩
  cases happening <;> simp_all [opener?, issued?]

end Happening

structure Chronicle where
  live : LiveRegistry
  pending : Table Nat Registration
  past : List Happening

namespace Chronicle

def start (period : Nat) : Chronicle := ⟨.make period, ∅, []⟩

def find? (c : Chronicle) (key : RegistryKey) : Option Entry :=
  c.live.registry.find? key

inductive Move (c : Chronicle) : Chronicle → Prop
  | reserve (r : Registration) :
    Move c
      { c with
        live := c.live.reserve.1
        pending := c.pending.put c.live.registry.nextId r }
  | join {id : Nat} {r : Registration} {e : Entry} (waiting : c.pending.get? id = some r)
      (there : c.find? r.key = some e) :
    Move c
      { live := { c.live with registry := c.live.registry.join r.key e id }
        pending := c.pending.erase id
        past := .joined ⟨id, r.key⟩ :: c.past }
  | create {id : Nat} {r : Registration} (now : Nat) (waiting : c.pending.get? id = some r)
      (free : c.find? r.key = none) :
    Move c
      { live := { c.live with
          registry := c.live.registry.create r.key id r.credential
          tasks := c.live.tasks.push id (.make r.key id r.context c.live.period now) }
        pending := c.pending.erase id
        past := .opened ⟨id, r.key⟩ r.credential :: c.past }
  | remove {h : Handle} {e : Entry} (there : c.find? h.key = some e) (mem : h.id ∈ e.handles) :
    Move c
      { c with
        live := { c.live with registry := c.live.registry.remove h e }
        past := .left h :: c.past }
  | install {key : RegistryKey} {e : Entry} (credential : Credential)
      (there : c.find? key = some e) :
    Move c
      { c with
        live := { c.live with registry := c.live.registry.install key e credential }
        past := .installed e.generation credential :: c.past }
  | goOn {generation : Nat} {t t' : RefreshTask} (running : c.live.tasks.get? generation = some t)
      (follows : t.Follows t') :
    Move c { c with live := { c.live with tasks := c.live.tasks.put generation t' } }
  | finish {generation : Nat} {t : RefreshTask} (running : c.live.tasks.get? generation = some t)
      (gone : c.live.registry.owns t.key t.generation = false) :
    Move c { c with live := { c.live with tasks := c.live.tasks.erase generation } }

theorem given_move {c c' : Chronicle} {number : Nat} (m : Move c c')
    (given : number ∈ (Happening.issued c.past).map Handle.id) :
    number ∈ (Happening.issued c'.past).map Handle.id := by
  cases m with
  | join => exact List.mem_cons_of_mem _ given
  | create => exact List.mem_cons_of_mem _ given
  | _ => exact given

theorem given_moves {c c' : Chronicle} {number : Nat} (m : Relation.ReflTransGen Move c c')
    (given : number ∈ (Happening.issued c.past).map Handle.id) :
    number ∈ (Happening.issued c'.past).map Handle.id := by
  induction m with
  | refl => exact given
  | tail _ m ih => exact given_move m ih

variable [Scheme]

def step (c : Chronicle) : RegistryEvent → Chronicle
  | .reserve registration =>
    let (live, id) := c.live.reserve
    { c with live, pending := c.pending.put id registration }
  | .enter id now =>
    match c.pending.get? id with
    | some r =>
      let (live, h) := c.live.enter id r.credential r.endpoint r.context now
      let happening :=
        match c.find? h.key with
        | some _ => .joined h
        | none => .opened h r.credential
      { live, pending := c.pending.erase id, past := happening :: c.past }
    | none => c
  | .unregister h =>
    match c.live.unregister h with
    | .ok live => { c with live, past := .left h :: c.past }
    | .error _ => c
  | .update h credential =>
    match c.live.update h credential, c.find? h.key with
    | .ok live, some e => { c with live, past := .installed e.generation credential :: c.past }
    | _, _ => c
  | .task generation event =>
    match c.live.tasks.get? generation with
    | some t =>
      { c with
        live := c.live.step generation event
        past :=
          ((t.installed? c.live.registry event).map (.installed t.generation)).toList ++ c.past }
    | none => c

def run (period : Nat) (events : List RegistryEvent) : Chronicle :=
  events.foldl step (start period)

theorem live_enter {c : Chronicle} {id : Nat} {r : Registration}
    (waiting : c.pending.get? id = some r) (now : Nat) :
    (c.step (.enter id now)).live =
      (c.live.enter id r.credential r.endpoint r.context now).1 := by
  simp only [step, waiting]

theorem live_register (c : Chronicle) (r : Registration) (now : Nat) :
    ((c.step (.reserve r)).step (.enter c.live.registry.nextId now)).live =
      (c.live.register r.credential r.endpoint r.context now).1 := by
  have waiting : (c.step (.reserve r)).pending.get? c.live.registry.nextId = some r :=
    Table.get?_put_self ..
  exact live_enter waiting now

theorem enter_moves (c : Chronicle) (id now : Nat) :
    Relation.ReflTransGen Move c (c.step (.enter id now)) := by
  cases waiting : c.pending.get? id with
  | none =>
    simp only [step, waiting]
    exact .refl
  | some r =>
    cases there : c.find? r.key with
    | some e =>
      have entered := LiveRegistry.enter_of_some there id r.context now
      have entry : c.find? (.of r.credential.certificate r.endpoint) = some e := there
      simp only [step, waiting, entered, entry]
      exact .single (.join waiting there)
    | none =>
      have entered := LiveRegistry.enter_of_none there id r.context now
      have entry : c.find? (.of r.credential.certificate r.endpoint) = none := there
      simp only [step, waiting, entered, entry]
      exact .single (.create now waiting there)

theorem unregister_moves (c : Chronicle) (h : Handle) :
    Relation.ReflTransGen Move c (c.step (.unregister h)) := by
  cases result : c.live.unregister h with
  | error e =>
    simp only [step, result]
    exact .refl
  | ok live =>
    obtain ⟨e, there, mem, rfl⟩ := LiveRegistry.unregister_eq_ok_iff.1 result
    simp only [step, result]
    exact .single (.remove there mem)

theorem update_moves (c : Chronicle) (h : Handle) (credential : Credential) :
    Relation.ReflTransGen Move c (c.step (.update h credential)) := by
  cases result : c.live.update h credential with
  | error e =>
    simp only [step, result]
    exact .refl
  | ok live =>
    obtain ⟨e, there, mem, rfl⟩ := LiveRegistry.update_eq_ok_iff.1 result
    have entry : c.find? h.key = some e := there
    simp only [step, result, entry]
    exact .single (.install credential there)

theorem task_moves (c : Chronicle) (generation : Nat) (event : RefreshTask.Event) :
    Relation.ReflTransGen Move c (c.step (.task generation event)) := by
  cases running : c.live.tasks.get? generation with
  | none =>
    simp only [step, running]
    exact .refl
  | some t =>
    simp only [step, running, LiveRegistry.step_of_some running]
    obtain ⟨t', next, follows, nothing⟩ | ⟨next, gone, nothing⟩ |
      ⟨e, credential, there, same, next, put⟩ := t.step_cases c.live.registry event
    · simp only [next, nothing]
      exact .single (.goOn running follows)
    · simp only [next, nothing]
      exact .single (.finish running gone)
    · simp only [next, put, ← same]
      -- The credential goes into the entry first; then the task waits again.
      exact .tail (.single (.install credential there)) (.goOn running ⟨rfl, same⟩)

theorem step_moves (c : Chronicle) (event : RegistryEvent) :
    Relation.ReflTransGen Move c (c.step event) := by
  cases event with
  | reserve r => exact .single (.reserve r)
  | enter id now => exact c.enter_moves id now
  | unregister h => exact c.unregister_moves h
  | update h credential => exact c.update_moves h credential
  | task generation event => exact c.task_moves generation event

end Chronicle

end Warrant
